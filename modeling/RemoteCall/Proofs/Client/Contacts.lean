import RemoteCall.Proofs.Client.Ageing
import RemoteCall.Proofs.Fragment.Counting

/-!
# Contacts with a channel

A driver looks whether its channel has connected, waits for readiness, asks whether the channel is
shutting down, shakes hands, reads and writes. Each of these is a contact. `contacts` lists those of
the next step of a driver; nothing happens to a channel but through them, except that it is closed
in the end. `Dealt` says where a session stands after the contacts of a step. The contacts of a
driver in several actions are its history.
-/
namespace RemoteCall

/-- A call of a driver on its channel, and what came of it. -/
inductive Contact where
  | finished (progress : ConnectProgress)
  | awaited (interest : Readiness) (answer : Except IoError Readiness)
  | polled (shuttingDown : Bool)
  | shook (observed : Readiness) (answer : Except IoError Handshake)
  | read (count : Nat)
  | wrote (count : Nat)

namespace Contact

/-- Application data is moved, or could have been. -/
def transfers : Contact → Bool
  | read _ => true
  | wrote _ => true
  | _ => false

/-- A handshake is done. -/
def settles : Contact → Bool
  | shook _ (.ok .done) => true
  | _ => false

/-- What a contact makes of a channel. -/
inductive Makes : Contact → Channel → Channel → Prop where
  | finished {channel after : Channel} (alike : channel.Alike after)
      (progress : after.progress = channel.progress) :
      Makes (.finished channel.progress) channel after
  | awaited (channel : Channel) (interest : Readiness) :
      Makes (.awaited interest (channel.ready interest)) channel channel
  | polled (channel : Channel) : Makes (.polled channel.shuttingDown) channel channel
  | shook (channel : Channel) (observed : Readiness) :
      Makes (.shook observed (channel.shakeHands observed).1) channel
        (channel.shakeHands observed).2
  | read {channel : Channel} {inbound : Inbound} {bytes : Bytes}
      (taken : channel.inbound.pending = bytes ++ inbound.pending) :
      Makes (.read bytes.length) channel { channel with inbound := inbound }
  | wrote {channel : Channel} {outbound : Outbound} {bytes : Bytes}
      (put : outbound.accepted = channel.outbound.accepted ++ bytes) :
      Makes (.wrote bytes.length) channel { channel with outbound := outbound }

/-- What several contacts make of a channel. -/
def MakesAll : List Contact → Channel → Channel → Prop
  | [], channel, after => after = channel
  | contact :: later, channel, after =>
      ∃ middle, contact.Makes channel middle ∧ MakesAll later middle after

theorem MakesAll.single {contact : Contact} {channel after : Channel}
    (makes : contact.Makes channel after) : MakesAll [contact] channel after :=
  ⟨after, makes, rfl⟩

end Contact

namespace Channel

/-- The contacts of a driver that goes on with the first handshake. -/
def greets (channel : Channel) (interest : Readiness) : List Contact :=
  .awaited interest (channel.ready interest) ::
    match channel.ready interest with
    | .error _ => []
    | .ok ready => [.shook ready (channel.shakeHands ready).1]

/-- The contacts of a driver that serves the channel, up to a transfer. -/
def serves (channel : Channel) (interest : Readiness) : List Contact :=
  .awaited interest (channel.ready interest) ::
    match channel.ready interest with
    | .error _ => []
    | .ok ready =>
        .polled channel.shuttingDown ::
          if channel.shuttingDown then [] else [.shook ready (channel.shakeHands ready).1]

/-- The contact of a driver that reads towards the next record. -/
def reads (channel : Channel) (assembler : Fragment.Assembler) (pool : BufferPool) : Contact :=
  .read (channel.inbound.unread - (assembler.read pool channel.inbound).2.side.unread)

/-- The contacts of one step of writing. -/
def writes (channel : Channel) (transmitter : Transmitter) : List Contact :=
  match transmitter.current with
  | none => []
  | some cursor =>
      if cursor.isComplete then []
      else
        [.wrote ((channel.outbound.write cursor.remainingSegment).2.accepted.length -
          channel.outbound.accepted.length)]

end Channel

/-- The contacts of the next step of a driver, if it takes one. -/
def Session.contacts (session : Session) (connection : Connection) (pool : BufferPool) :
    List Contact :=
  let unlessAsked (contacts : List Contact) :=
    if connection.closeReason.isSome then [] else contacts
  match session.phase with
  | .registered => []
  | .finishing _ => unlessAsked [.finished session.channel.progress]
  | .greeting interest => unlessAsked (session.channel.greets interest)
  | .deciding => []
  | .waiting armed interest =>
      unlessAsked (if armed && connection.permit then [] else session.channel.serves interest)
  | .pausing _ => []
  | .reading _ => [session.channel.reads session.assembler pool]
  | .writing => session.channel.writes session.transmitter
  | .closed => []

/-- The kinds of steps of a driver by their contacts, with where the session stands afterwards. -/
inductive Dealt (session : Session) : List Contact → Session → Prop where
  | looked {polled : Bool} (phase : session.phase = .finishing polled) (channel : Channel) :
      Dealt session [.finished .pending]
        { session with channel := channel, phase := .finishing true }
  | established {polled : Bool} (phase : session.phase = .finishing polled) (channel : Channel) :
      Dealt session [.finished .established]
        { session with channel := channel, phase := .greeting .both }
  | greets {interest ready : Readiness} {progress : Handshake} {more : Readiness}
      (phase : session.phase = .greeting interest) (unfinished : progress.interest = some more)
      (channel : Channel) :
      Dealt session [.awaited interest (.ok ready), .shook ready (.ok progress)]
        { session with channel := channel, phase := .greeting more }
  | greeted {interest ready : Readiness} (phase : session.phase = .greeting interest)
      (channel : Channel) :
      Dealt session [.awaited interest (.ok ready), .shook ready (.ok .done)]
        { session with channel := channel, phase := .deciding }
  | decided {interest : Readiness} (phase : session.phase = .deciding) (armed : Bool)
      (wanted : ∀ more, session.wanted = some more → interest = more) :
      Dealt session [] { session with phase := .waiting armed interest }
  | heard {armed : Bool} {interest : Readiness} (phase : session.phase = .waiting armed interest) :
      Dealt session [] { session with phase := .deciding }
  | paused {armed : Bool} {interest ready : Readiness}
      (phase : session.phase = .waiting armed interest) (deadline : Instant) :
      Dealt session [.awaited interest (.ok ready), .polled true]
        { session with phase := .pausing deadline }
  | resumed {deadline : Instant} (phase : session.phase = .pausing deadline) :
      Dealt session [] { session with phase := .deciding }
  | shakes {armed : Bool} {interest ready : Readiness} {progress : Handshake} {more : Readiness}
      (phase : session.phase = .waiting armed interest)
      (unfinished : progress.interest = some more) (channel : Channel) :
      Dealt session [.awaited interest (.ok ready), .polled false, .shook ready (.ok progress)]
        { session with channel := channel, wanted := some more, phase := .deciding }
  | shaken {armed : Bool} {interest ready : Readiness} {next : SessionPhase}
      (phase : session.phase = .waiting armed interest) (channel : Channel)
      (serves : ready.read = true ∧ next = .reading ready.write ∨
        ready.write = true ∧ next = .writing) :
      Dealt session [.awaited interest (.ok ready), .polled false, .shook ready (.ok .done)]
        { session with channel := channel, wanted := none, phase := next }
  | read {thenWrite : Bool} {after : Session} (phase : session.phase = .reading thenWrite)
      (count : Nat) (wanted : after.wanted = session.wanted)
      (next : after.phase = .reading thenWrite ∨ thenWrite = true ∧ after.phase = .writing ∨
        after.phase = .deciding) : Dealt session [.read count] after
  | wrote {contacts : List Contact} {after : Session} (phase : session.phase = .writing)
      (wanted : after.wanted = session.wanted)
      (next : after.phase = .writing ∨ after.phase = .deciding) : Dealt session contacts after
  | ended {contacts : List Contact} {after : Session} (closed : after.phase = .closed) :
      Dealt session contacts after

namespace Client

/-- The contacts of the next step of a driver, if it takes one. -/
def contacts (client : Client) (n : Nat) : List Contact :=
  match client.sessions[n]? with
  | none => []
  | some session =>
      match client.connections[session.connection]? with
      | none => []
      | some connection => session.contacts connection client.pool

/-- A step with these contacts puts the session back, and its channel as the contacts have left it,
or closed. -/
def DealtFrom (client : Client) (n : Nat) (session : Session) (contacts : List Contact)
    (next : Client) : Prop :=
  ∃ after channel, next.sessions = client.sessions.set n after ∧
    Contact.MakesAll contacts session.channel channel ∧
      (after.channel = channel ∨ after.channel = channel.close) ∧ Dealt session contacts after

section

variable {client next : Client} {n : Nat} {session : Session} {connection : Connection}

theorem dealtFrom_finishStep {polled : Bool} (phase : session.phase = .finishing polled)
    (h : client.finishStep n session connection polled = some next) :
    client.DealtFrom n session [.finished session.channel.progress] next := by
  simp only [finishStep] at h
  have recorded : session.channel.Alike
        (if polled then session.channel else session.channel.record .finishConnect) ∧
      (if polled then session.channel else session.channel.record .finishConnect).progress =
        session.channel.progress := by
    split
    · exact ⟨.refl _, rfl⟩
    · exact ⟨session.channel.alike_record _, rfl⟩
  generalize (if polled then session.channel else session.channel.record .finishConnect) =
    channel at h recorded
  have makes := Contact.MakesAll.single (.finished recorded.1 recorded.2)
  split at h
  · rename_i progress
    split at h
    · cases h
    · cases h
      refine ⟨_, channel, rfl, makes, .inl rfl, ?_⟩
      rw [← recorded.2, progress]
      exact .looked phase channel
  · cases h
    exact ⟨_, channel, rfl, makes, .inr rfl, .ended rfl⟩
  · rename_i progress
    cases h
    refine ⟨_, channel, rfl, makes, .inl rfl, ?_⟩
    rw [← recorded.2, progress]
    exact .established phase channel

theorem dealtFrom_greetStep {interest : Readiness} (phase : session.phase = .greeting interest)
    (h : client.greetStep n session connection interest = some next) :
    client.DealtFrom n session (session.channel.greets interest) next := by
  simp only [greetStep] at h
  have awaits := Contact.Makes.awaited session.channel interest
  unfold Channel.greets
  cases ready? : session.channel.ready interest with
  | error cause =>
    rw [ready?] at h awaits
    cases h
    exact ⟨_, _, rfl, .single awaits, .inr rfl, .ended rfl⟩
  | ok ready =>
    rw [ready?] at h awaits
    simp only at h ⊢
    split at h
    · cases h
    have shakes := Contact.Makes.shook session.channel ready
    generalize session.channel.shakeHands ready = shaken at h shakes
    obtain ⟨answer, channel⟩ := shaken
    have makes : Contact.MakesAll [.awaited interest (.ok ready), .shook ready answer]
        session.channel channel := ⟨_, awaits, .single shakes⟩
    cases answer with
    | error cause =>
      cases h
      exact ⟨_, channel, rfl, makes, .inr rfl, .ended rfl⟩
    | ok progress =>
      simp only at h
      split at h
      · rename_i more unfinished
        cases h
        exact ⟨_, channel, rfl, makes, .inl rfl, .greets phase unfinished channel⟩
      · rename_i finished
        cases h
        have done : progress = .done := by cases progress <;> first | rfl | cases finished
        subst done
        exact ⟨_, channel, rfl, makes, .inl rfl, .greeted phase channel⟩

theorem dealtFrom_decideStep (phase : session.phase = .deciding) :
    client.DealtFrom n session [] (client.decideStep n session connection) := by
  refine ⟨_, session.channel, rfl, rfl, .inl rfl, .decided phase _ fun more wanted => ?_⟩
  rw [wanted]
  rfl

theorem dealtFrom_serveStep {armed : Bool} {interest ready : Readiness}
    (phase : session.phase = .waiting armed interest)
    (ready? : session.channel.ready interest = .ok ready) (any : ready.any = true) :
    client.DealtFrom n session (session.channel.serves interest)
      (client.serveStep n session connection ready) := by
  have awaits := Contact.Makes.awaited session.channel interest
  have polls := Contact.Makes.polled session.channel
  unfold serveStep Channel.serves
  rw [ready?] at awaits ⊢
  simp only
  cases shutting : session.channel.shuttingDown with
  | true =>
    rw [shutting] at polls
    rw [if_pos rfl]
    exact ⟨_, session.channel, rfl, ⟨_, awaits, .single polls⟩, .inl rfl, .paused phase _⟩
  | false =>
    rw [shutting] at polls
    rw [if_neg (by simp), if_neg (by simp)]
    have shakes := Contact.Makes.shook session.channel ready
    generalize session.channel.shakeHands ready = shaken at shakes
    obtain ⟨answer, channel⟩ := shaken
    have makes : Contact.MakesAll
        [.awaited interest (.ok ready), .polled false, .shook ready answer] session.channel
          channel := ⟨_, awaits, _, polls, .single shakes⟩
    cases answer with
    | error cause => exact ⟨_, channel, rfl, makes, .inr rfl, .ended rfl⟩
    | ok progress =>
      cases unfinished : progress.interest with
      | some more =>
        refine ⟨_, channel, rfl, makes, .inl rfl, ?_⟩
        simp only [unfinished]
        exact .shakes phase unfinished channel
      | none =>
        have done : progress = .done := by cases progress <;> first | rfl | cases unfinished
        subst done
        refine ⟨_, channel, rfl, makes, .inl rfl, .shaken phase channel ?_⟩
        cases read : ready.read with
        | true => exact .inl ⟨rfl, rfl⟩
        | false =>
          have write : ready.write = true := by simpa [Readiness.any, read] using any
          exact .inr ⟨write, by simp [unfinished, write]⟩

theorem dealtFrom_waitStep {armed : Bool} {interest : Readiness}
    (phase : session.phase = .waiting armed interest)
    (h : client.waitStep n session connection armed interest = some next) :
    client.DealtFrom n session
      (if armed && connection.permit then [] else session.channel.serves interest) next := by
  simp only [waitStep] at h
  split at h
  · rename_i permitted
    cases h
    rw [if_pos permitted]
    exact ⟨_, session.channel, rfl, rfl, .inl rfl, .heard phase⟩
  · rename_i waits
    rw [if_neg waits]
    split at h
    · rename_i cause failed
      cases h
      have awaits := Contact.Makes.awaited session.channel interest
      unfold Channel.serves
      rw [failed] at awaits ⊢
      exact ⟨_, session.channel, rfl, .single awaits, .inr rfl, .ended rfl⟩
    · rename_i ready ready?
      split at h
      · cases h
      · rename_i any
        cases h
        exact dealtFrom_serveStep phase ready? (by simpa using any)

theorem dealtFrom_readStep {thenWrite : Bool} (phase : session.phase = .reading thenWrite) :
    client.DealtFrom n session [session.channel.reads session.assembler client.pool]
      (client.readStep n session connection thenWrite) := by
  have takes := Fragment.Assembler.Work.takes_run
    ⟨session.assembler, client.pool, session.channel.inbound⟩
  unfold readStep Channel.reads Fragment.Assembler.read
  generalize Fragment.Assembler.Work.run
    ⟨session.assembler, client.pool, session.channel.inbound⟩ = answer at takes
  obtain ⟨reading, work⟩ := answer
  obtain ⟨bytes, taken, -⟩ := takes.taken
  have count : session.channel.inbound.unread - work.side.unread = bytes.length := by
    rw [Fragment.Assembler.Work.unread_of_taken taken, Nat.add_sub_cancel_left]
  have makes : Contact.MakesAll [.read bytes.length] session.channel
      { session.channel with inbound := work.side } := .single (.read taken)
  have goes {next : Client} {after : Session}
      (sessions : next.sessions = client.sessions.set n after)
      (channel : after.channel = { session.channel with inbound := work.side })
      (wanted : after.wanted = session.wanted)
      (onward : after.phase = .reading thenWrite ∨ thenWrite = true ∧ after.phase = .writing ∨
        after.phase = .deciding) : client.DealtFrom n session [.read bytes.length] next :=
    ⟨after, _, sessions, makes, .inl channel, .read phase _ wanted onward⟩
  have ends {next : Client} {after : Session}
      (sessions : next.sessions = client.sessions.set n after)
      (channel : after.channel = Channel.close { session.channel with inbound := work.side })
      (closed : after.phase = .closed) : client.DealtFrom n session [.read bytes.length] next :=
    ⟨after, _, sessions, makes, .inr channel, .ended closed⟩
  simp only [count]
  cases reading with
  | record fragments =>
    simp only [deliverRecord]
    split
    · exact ends rfl rfl rfl
    · simp only [Connection.takeInFlight]
      split <;> exact goes rfl rfl rfl (.inl phase)
  | wouldBlock =>
    refine goes rfl rfl rfl (.inr ?_)
    cases thenWrite with
    | true => exact .inl ⟨rfl, rfl⟩
    | false => exact .inr rfl
  | ended => exact ends rfl rfl rfl
  | failed cause => exact ends rfl rfl rfl
  | overLimit length => exact ends rfl rfl rfl

/-- The contacts of a step of writing are all that it makes of the channel. -/
theorem makesAll_writes (channel : Channel) (transmitter : Transmitter) (queue : List Request)
    (now : Instant) : Contact.MakesAll (channel.writes transmitter) channel { channel with
      outbound := (Transmitter.Work.step ⟨transmitter, queue, channel.outbound⟩ now).2.side } := by
  have untouched {side : Outbound} (same : side = channel.outbound) :
      Contact.MakesAll [] channel { channel with outbound := side } := by
    rw [same]
    rfl
  unfold Channel.writes Transmitter.Work.step
  cases transmitter.current with
  | none =>
    refine untouched ?_
    unfold Transmitter.Work.takeUp
    simp only
    split
    · rfl
    · split <;> rfl
  | some cursor =>
    unfold Transmitter.Work.push
    by_cases complete : cursor.isComplete = true
    · simp only [if_pos complete]
      exact untouched rfl
    · simp only [if_neg complete]
      have writes := channel.outbound.writes_write
        (Cursor.remainingSegment_ne_nil (by simpa using complete))
      generalize channel.outbound.write cursor.remainingSegment = answer at writes
      have put {side : Outbound} {bytes : Bytes}
          (accepted : side.accepted = channel.outbound.accepted ++ bytes) :
          Contact.MakesAll [.wrote (side.accepted.length - channel.outbound.accepted.length)]
            channel { channel with outbound := side } := by
        have count : side.accepted.length - channel.outbound.accepted.length = bytes.length := by
          rw [accepted, List.length_append, Nat.add_sub_cancel_left]
        rw [count]
        exact .single (.wrote accepted)
      cases writes with
      | moved accepted pos le => exact put accepted
      | wouldBlock refusal | ended refusal | failed refusal => exact put (List.append_nil _).symm

theorem dealtFrom_writeStep (phase : session.phase = .writing) :
    client.DealtFrom n session (session.channel.writes session.transmitter)
      (client.writeStep n session connection) := by
  have makes := makesAll_writes session.channel session.transmitter connection.queue client.now
  unfold writeStep
  generalize Transmitter.Work.step
    ⟨session.transmitter, connection.queue, session.channel.outbound⟩ client.now = answer at makes
  obtain ⟨effect, work⟩ := answer
  have goes {next : Client} {after : Session}
      (sessions : next.sessions = client.sessions.set n after)
      (channel : after.channel = { session.channel with outbound := work.side })
      (wanted : after.wanted = session.wanted)
      (onward : after.phase = .writing ∨ after.phase = .deciding) :
      client.DealtFrom n session (session.channel.writes session.transmitter) next :=
    ⟨after, _, sessions, makes, .inl channel, .wrote phase wanted onward⟩
  have ends {next : Client} {after : Session}
      (sessions : next.sessions = client.sessions.set n after)
      (channel : after.channel = Channel.close { session.channel with outbound := work.side })
      (closed : after.phase = .closed) :
      client.DealtFrom n session (session.channel.writes session.transmitter) next :=
    ⟨after, _, sessions, makes, .inr channel, .ended closed⟩
  cases effect with
  | stopped why =>
    cases why with
    | idle | wouldBlock => exact goes rfl rfl rfl (.inr rfl)
    | ended | failed cause => exact ends rfl rfl rfl
  | started | moved => exact goes rfl rfl rfl (.inl phase)
  | refused request failure => exact goes rfl rfl rfl (.inl phase)
  | transmitted request =>
    have lost (requests : List Request) (middle : Client) :
        (requests.foldl lose middle).sessions = middle.sessions := by rw [foldl_lose_eq]
    exact goes (lost _ _) rfl rfl (.inl phase)

/-- A step that is taken is as `Dealt` says, and its contacts are those that `contacts` lists. -/
theorem exists_dealt_of_step? (h : client.step? n = some next) :
    ∃ session connection, client.sessions[n]? = some session ∧
      client.connections[session.connection]? = some connection ∧
      client.DealtFrom n session (client.contacts n) next := by
  simp only [step?, Option.bind_eq_bind, Option.bind_eq_some_iff] at h
  obtain ⟨session, found, connection, bound, h⟩ := h
  refine ⟨session, connection, found, bound, ?_⟩
  have listens {contacts : List Contact} {other : Option Client}
      (step : other = some next → client.DealtFrom n session contacts next)
      (h : client.unlessClosed n session connection other = some next) :
      client.DealtFrom n session (if connection.closeReason.isSome then [] else contacts) next := by
    unfold unlessClosed at h
    cases asked : connection.closeReason with
    | none =>
      rw [asked] at h
      exact step h
    | some reason =>
      rw [asked] at h
      cases h
      exact ⟨_, session.channel, rfl, rfl, .inr rfl, .ended rfl⟩
  have own : client.contacts n = session.contacts connection client.pool := by
    simp only [contacts, found, bound]
  rw [own]
  unfold Session.contacts
  cases phase : session.phase with
  | registered => rw [phase] at h; cases h
  | closed => rw [phase] at h; cases h
  | finishing polled =>
    rw [phase] at h
    exact listens (dealtFrom_finishStep phase) h
  | greeting interest =>
    rw [phase] at h
    exact listens (dealtFrom_greetStep phase) h
  | deciding =>
    rw [phase] at h
    cases h
    exact dealtFrom_decideStep phase
  | waiting armed interest =>
    rw [phase] at h
    exact listens (dealtFrom_waitStep phase) h
  | pausing deadline =>
    rw [phase] at h
    simp only at h
    split at h
    · cases h
      exact ⟨_, session.channel, rfl, rfl, .inl rfl, .resumed phase⟩
    · cases h
  | reading thenWrite =>
    rw [phase] at h
    cases h
    exact dealtFrom_readStep phase
  | writing =>
    rw [phase] at h
    cases h
    exact dealtFrom_writeStep phase

end

/-! ## Sessions at rest -/

end Client

/-- Two states of a session between which its driver has taken no step: its channel may have
changed, and if it waited to be taken up it may have been, or it was closed. -/
structure Session.Rests (a b : Session) : Prop where
  own : b.connection = a.connection
  wanted : b.wanted = a.wanted
  assembler : b.assembler = a.assembler
  transmitter : b.transmitter = a.transmitter
  phase : b.phase = a.phase ∨
    a.phase = .registered ∧ (b.phase = .finishing false ∨ b.phase = .closed)

theorem Session.Rests.refl (session : Session) : session.Rests session :=
  ⟨rfl, rfl, rfl, rfl, .inl rfl⟩

namespace Client

/-- The session is at rest, or it is new. -/
def Rested (client : Client) (n : Nat) (after : Session) : Prop :=
  (∃ before, client.sessions[n]? = some before ∧ before.Rests after) ∨
    client.sessions[n]? = none ∧ after.Untouched ∧
      (after.phase = .registered ∨ after.phase = .closed)

section

variable {client next : Client} {n : Nat}

/-- A turn leaves the session `n` alone if it was taken up before. -/
theorem turnRelation_apart (n : Nat) : TurnRelation
    (fun client next => next.sessions[n]? = client.sessions[n]?) fun _ m => m ≠ n where
  refl _ := rfl
  trans first second := second.trans first
  fresh _ before := before
  noted same := by rw [same]
  retired client index reason := by rw [retireAndFail_frame]
  expired client index := by rw [takeExpired_frame]
  failed _ _ := rfl
  spawned client m apart := by
    unfold spawn
    split
    · rfl
    · exact List.getElem?_set_ne apart
  discarded client m apart := by
    unfold discard
    split
    · rfl
    · simp only
      split <;> exact List.getElem?_set_ne apart

/-- A turn takes sessions up, or closes them, and leaves what their drivers did. -/
theorem turnRelation_kept : TurnRelation (fun client next => Evolves (fun a b : Session =>
    b.connection = a.connection ∧ b.wanted = a.wanted ∧ b.assembler = a.assembler ∧
      b.transmitter = a.transmitter ∧
        (b.phase = a.phase ∨ b.phase = .finishing false ∨ b.phase = .closed))
      client.sessions next.sessions) fun _ _ => True := by
  have refl (session : Session) : session.connection = session.connection ∧
      session.wanted = session.wanted ∧ session.assembler = session.assembler ∧
        session.transmitter = session.transmitter ∧ (session.phase = session.phase ∨
          session.phase = .finishing false ∨ session.phase = .closed) :=
    ⟨rfl, rfl, rfl, rfl, .inl rfl⟩
  refine .of_sessions (Evolves _) (fun _ => .of_eq refl rfl)
    (fun first second => first.trans (fun {a b c} first second => ?_) second)
    (fun found => .set refl found (by exact ⟨rfl, rfl, rfl, rfl, .inr (.inl rfl)⟩))
    fun found => .set refl found (by exact ⟨rfl, rfl, rfl, rfl, .inr (.inr rfl)⟩)
  obtain ⟨own, wanted, assembler, transmitter, phase⟩ := first
  obtain ⟨own', wanted', assembler', transmitter', phase'⟩ := second
  refine ⟨own'.trans own, wanted'.trans wanted, assembler'.trans assembler,
    transmitter'.trans transmitter, ?_⟩
  rcases phase' with same | moved
  · rw [same]
    exact phase
  · exact .inr moved

theorem Turned.rested (h : client.Turned next) (orderly : client.Orderly) {after : Session}
    (found : next.sessions[n]? = some after) : client.Rested n after := by
  have owners := turnRelation_owners.turned h fun _ _ => trivial
  obtain ⟨before, there, -⟩ := exists_of_map_eq owners found
  refine .inl ⟨before, there, ?_⟩
  obtain ⟨other, found', own, wanted, assembler, transmitter, phase⟩ :=
    turnRelation_kept.turned h (fun _ _ => trivial) n before there
  rw [found, Option.some.injEq] at found'
  subst found'
  refine ⟨own, wanted, assembler, transmitter, ?_⟩
  by_cases waiting : n ∈ client.registrations
  · obtain ⟨session, hs, registered⟩ := (orderly.awaiting.2 n).1 waiting
    rw [there, Option.some.injEq] at hs
    exact phase.imp_right fun moved => ⟨hs ▸ registered, moved⟩
  · have apart := (turnRelation_apart n).turned h fun m mem here => waiting (here ▸ mem)
    rw [found, there, Option.some.injEq] at apart
    exact .inl (by rw [apart])

/-- Sessions that a call adds were not used. -/
theorem exists_untouched_send (valid : client.RegistryValid) (call : Call) :
    ∃ more, (client.send call).sessions = client.sessions ++ more ∧ ∀ session ∈ more,
      session.Untouched ∧ (session.phase = .registered ∨ session.phase = .closed) := by
  cases sent_send valid call with
  | malformed failure encoded changed =>
    rw [changed]
    exact ⟨[], (List.append_nil _).symm, List.forall_mem_nil _⟩
  | submitted header encoded seat outcome =>
    rename_i index connection seated
    have same : seated.sessions = client.sessions := by
      cases seat <;> rfl
    cases outcome with
    | refused down changed | queued up link connection' shared changed owes owed =>
      rw [changed]
      exact ⟨[], by rw [List.append_nil, ← same], List.forall_mem_nil _⟩
    | opened up link takesUp session own phase free connection' shared changed unshut untouched =>
      rw [changed]
      exact ⟨[session], by rw [← same], List.forall_mem_singleton.2 ⟨untouched, .inl phase⟩⟩
    | failed up link failure unused closed connection' shared changed shut untouched =>
      rw [changed]
      exact ⟨unused, by rw [← same],
        fun session mem => ⟨untouched session mem, .inr (closed session mem).1⟩⟩

/-- The contacts of the driver of a session in an action. -/
def contactsIn (client : Client) (n : Nat) : Action → List Contact
  | .drive m =>
      if m = n ∧ client.mayDrive n ∧ (client.step? n).isSome then client.contacts n else []
  | _ => []

theorem contactsIn_of_step? (free : client.mayDrive n = true) (step : client.step? n = some next) :
    client.contactsIn n (.drive n) = client.contacts n :=
  if_pos ⟨rfl, free, by rw [step]; rfl⟩

/-- Whatever is neither a call nor a turn nor a step of a driver leaves all sessions at rest. -/
theorem Minor.rested {action : Action} (h : client.Minor action next) (orderly : client.Orderly)
    {after : Session} (found : next.sessions[n]? = some after) : client.Rested n after := by
  have same (sessions : next.sessions = client.sessions) : client.Rested n after := by
    rw [sessions] at found
    exact .inl ⟨after, found, .refl after⟩
  cases h with
  | toldPosted _ | toldRejected _ => exact same (by rw [deliver_eq])
  | notified _ => exact same rfl
  | changed there =>
    rcases getElem?_set_cases found with ⟨rfl, rfl⟩ | ⟨-, old⟩
    · exact .inl ⟨_, there, rfl, rfl, rfl, rfl, .inl rfl⟩
    · exact .inl ⟨after, old, .refl after⟩
  | started _ _ _ => exact same rfl
  | abandoned _ _ _ =>
    obtain ⟨before, there, ⟨rfl, -⟩ | ⟨rfl, waited⟩⟩ := exists_of_dropRegistrations found
    · exact .inl ⟨after, there, .refl after⟩
    · obtain ⟨session, there', waiting⟩ := (orderly.awaiting.2 n).1 waited
      rw [there, Option.some.injEq] at there'
      exact .inl ⟨before, there, rfl, rfl, rfl, rfl, .inr ⟨there' ▸ waiting, .inr rfl⟩⟩
  | ended _ => exact same (by rw [failOutstanding_frame])
  | flagged _ => exact same rfl
  | aside _ _ frame => exact same (by rw [frame])

theorem rested_send (valid : client.RegistryValid) (call : Call) {after : Session}
    (found : (client.send call).sessions[n]? = some after) : client.Rested n after := by
  obtain ⟨more, sessions, new⟩ := exists_untouched_send valid call
  rw [sessions] at found
  rcases getElem?_append_cases found with old | ⟨beyond, mem⟩
  · exact .inl ⟨after, old, .refl after⟩
  · exact .inr ⟨List.getElem?_eq_none beyond, new after mem⟩

theorem rested_turn (orderly : client.Orderly) {after : Session}
    (found : (client.perform .turn).sessions[n]? = some after) : client.Rested n after := by
  rcases client.perform_turn_eq with same | ⟨-, turned⟩
  · rw [same] at found
    exact .inl ⟨after, found, .refl after⟩
  · exact turned.rested orderly found

/-- A step of the driver of another session leaves the session as it was. -/
theorem rested_of_step? {m : Nat} (step : client.step? m = some next) (other : m ≠ n)
    {after : Session} (found : next.sessions[n]? = some after) : client.Rested n after := by
  obtain ⟨session, connection, -, -, put, channel, sessions, -⟩ := exists_dealt_of_step? step
  rw [sessions, List.getElem?_set_ne other] at found
  exact .inl ⟨after, found, .refl after⟩

/-- An action is a step of a driver, or leaves its session at rest. -/
theorem steps_or_rests (orderly : client.Orderly) (action : Action) (n : Nat) :
    (action = .drive n ∧ client.mayDrive n = true ∧
      client.step? n = some (client.perform action)) ∨
    client.contactsIn n action = [] ∧ ∀ after,
      (client.perform action).sessions[n]? = some after → client.Rested n after := by
  cases action with
  | send call => exact .inr ⟨rfl, fun after => rested_send orderly.sound.valid call⟩
  | turn => exact .inr ⟨rfl, fun after => rested_turn orderly⟩
  | drive m =>
    by_cases steps : client.mayDrive m = true ∧ (client.step? m).isSome = true
    · obtain ⟨next, step⟩ := Option.isSome_iff_exists.1 steps.2
      rw [client.perform_drive_of_step? steps.1 step]
      by_cases here : m = n
      · subst here
        exact .inl ⟨rfl, steps.1, step⟩
      · exact .inr ⟨if_neg fun all => here all.1, fun after => rested_of_step? step here⟩
    · have still : client.perform (.drive m) = client := by
        rcases client.perform_drive_eq m with same | ⟨free, step⟩
        · exact same
        · exact absurd ⟨free, by rw [step]; rfl⟩ steps
      rw [still]
      refine .inr ⟨if_neg fun all => ?_, fun after found => .inl ⟨after, found, .refl after⟩⟩
      obtain ⟨rfl, free, step⟩ := all
      exact steps ⟨free, step⟩
  | _ =>
    exact .inr ⟨rfl, fun after => (client.minor_perform (by simp) (by simp) (by simp)).rested orderly⟩

/-! ## Histories -/

/-- What is gathered over several actions, in order. -/
def gather {α : Type} (gain : Client → Action → List α) (client : Client) : List Action → List α
  | [] => []
  | action :: later => gain client action ++ (client.perform action).gather gain later

/-- What is kept by every action together with what it adds holds wherever a run leads. -/
theorem gather_induct {α : Type} {gain : Client → Action → List α} {I : Client → List α → Prop}
    (step : ∀ client past action, client.Orderly → I client past →
      I (client.perform action) (past ++ gain client action))
    {past : List α} (orderly : client.Orderly) (holds : I client past) (actions : List Action) :
    (client.performAll actions).Orderly ∧
      I (client.performAll actions) (past ++ client.gather gain actions) := by
  induction actions generalizing client past with
  | nil =>
    rw [gather, List.append_nil]
    exact ⟨orderly, holds⟩
  | cons action later ih =>
    rw [gather, ← List.append_assoc]
    exact ih (orderly.perform action) (step client past action orderly holds)

/-- The contacts of the driver of a session in several actions. -/
def history (client : Client) (n : Nat) (actions : List Action) : List Contact :=
  client.gather (fun client => client.contactsIn n) actions

end

end Client

end RemoteCall
