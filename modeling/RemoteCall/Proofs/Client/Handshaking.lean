import RemoteCall.Proofs.Client.Contacts

/-!
# Handshakes before data

A driver moves application data only when its channel was established, was ready, was not shutting
down, and has completed a handshake for what it was ready for. While a handshake is unfinished the
driver waits for what that asks for and nothing else. `Lawful` says so of the history of a driver;
`Stands` is what the phase of its session knows of the history, and this is what a step keeps. The
first handshake that is completed is also the moment at which the connection is up.
-/
namespace RemoteCall

namespace Contact

/-- What is still to be waited for after a contact, if it was `wanted` before. -/
def leaves (wanted : Option Readiness) : Contact → Option Readiness
  | shook _ (.ok progress) => progress.interest
  | _ => wanted

/-- What the latest handshake has left to be waited for. -/
def wanted (past : List Contact) : Option Readiness := past.foldl leaves none

@[simp] theorem wanted_append (past more : List Contact) :
    wanted (past ++ more) = more.foldl leaves (wanted past) :=
  List.foldl_append

/-- An established channel was ready, was not shutting down, and completed a handshake for just
that. Since then data was moved at most. -/
def Cleared (past : List Contact) (ready : Readiness) : Prop :=
  ∃ earlier interest moves, past = earlier ++ .awaited interest (.ok ready) :: .polled false ::
      .shook ready (.ok .done) :: moves ∧
    (∀ move ∈ moves, move.transfers = true) ∧ .finished .established ∈ earlier

/-- What was there before a contact allows for it. -/
def Permits (past : List Contact) : Contact → Prop
  | read _ => ∃ ready, Cleared past ready ∧ ready.read = true
  | wrote _ => ∃ ready, Cleared past ready ∧ ready.write = true
  | awaited interest _ => ∀ more, wanted past = some more → interest = more
  | _ => True

/-- What was there before each contact allows for it. -/
def Lawful (past : List Contact) : Prop :=
  ∀ earlier contact later, past = earlier ++ contact :: later → Permits earlier contact

/-- No handshake was completed. -/
def Ungreeted (past : List Contact) : Prop := ∀ contact ∈ past, contact.settles = false

/-- The channel was established and has completed a handshake. -/
def Greeted (past : List Contact) : Prop :=
  .finished .established ∈ past ∧ ∃ contact ∈ past, contact.settles = true

section

variable {past more : List Contact}

theorem Lawful.concat (h : Lawful past) {contact : Contact} (permits : Permits past contact) :
    Lawful (past ++ [contact]) := by
  intro earlier other later split
  rcases List.eq_nil_or_concat later with rfl | ⟨init, last, rfl⟩
  · obtain ⟨same, last⟩ := List.append_inj' split rfl
    rw [← same, ← List.singleton_inj.1 last]
    exact permits
  · have inner : past ++ [contact] = (earlier ++ other :: init) ++ [last] := by
      rw [split, List.concat_eq_append, List.append_assoc, List.cons_append]
    exact h earlier other init (List.append_inj' inner rfl).1

/-- Contacts that are always allowed may come behind. -/
theorem Lawful.append (h : Lawful past)
    (permits : ∀ earlier, ∀ contact ∈ more, Permits earlier contact) : Lawful (past ++ more) := by
  induction more generalizing past with
  | nil =>
    rw [List.append_nil]
    exact h
  | cons contact later ih =>
    rw [List.append_cons]
    exact ih (h.concat (permits past contact List.mem_cons_self))
      fun earlier other mem => permits earlier other (List.mem_cons_of_mem _ mem)

theorem Ungreeted.append (h : Ungreeted past) (new : ∀ contact ∈ more, contact.settles = false) :
    Ungreeted (past ++ more) :=
  List.forall_mem_append.2 ⟨h, new⟩

theorem Greeted.append (h : Greeted past) (more : List Contact) : Greeted (past ++ more) := by
  obtain ⟨established, contact, mem, settles⟩ := h
  exact ⟨List.mem_append_left _ established, contact, List.mem_append_left _ mem, settles⟩

theorem Cleared.append {ready : Readiness} (h : Cleared past ready)
    (moves : ∀ move ∈ more, move.transfers = true) : Cleared (past ++ more) ready := by
  obtain ⟨earlier, interest, moved, rfl, transfers, established⟩ := h
  exact ⟨earlier, interest, moved ++ more, by simp,
    List.forall_mem_append.2 ⟨transfers, moves⟩, established⟩

theorem leaves_of_transfers (moves : ∀ move ∈ more, move.transfers = true)
    (wanted : Option Readiness) : more.foldl leaves wanted = wanted := by
  induction more with
  | nil => rfl
  | cons move later ih =>
    have first : move.leaves wanted = wanted := by
      have moves := moves move List.mem_cons_self
      cases move <;> first | rfl | cases moves
    rw [List.foldl_cons, first]
    exact ih fun other mem => moves other (List.mem_cons_of_mem _ mem)

end

end Contact

open Contact

/-- What a driver waits for, if it waits for readiness. -/
def SessionPhase.awaits? : SessionPhase → Option Readiness
  | greeting interest => some interest
  | waiting _ interest => some interest
  | _ => none

/-- What the phase of a session, and what it keeps of handshakes, know of its history. -/
def Stands (past : List Contact) (kept : Option Readiness) : SessionPhase → Prop
  | .registered => Ungreeted past ∧ wanted past = none ∧ kept = none
  | .finishing _ => Ungreeted past ∧ wanted past = none ∧ kept = none
  | .greeting interest => Ungreeted past ∧ .finished .established ∈ past ∧ kept = none ∧
      ∀ more, wanted past = some more → interest = more
  | .deciding => Greeted past ∧ wanted past = kept
  | .waiting _ interest => Greeted past ∧ wanted past = kept ∧
      ∀ more, wanted past = some more → interest = more
  | .pausing _ => Greeted past ∧ wanted past = kept
  | .reading thenWrite => (Greeted past ∧ wanted past = kept) ∧
      ∃ ready, Cleared past ready ∧ ready.read = true ∧ (thenWrite = true → ready.write = true)
  | .writing => (Greeted past ∧ wanted past = kept) ∧
      ∃ ready, Cleared past ready ∧ ready.write = true
  | .closed => True

namespace Stands

variable {past : List Contact} {session after : Session} {contacts : List Contact}

theorem rests (h : Stands past session.wanted session.phase) (rests : session.Rests after) :
    Stands past after.wanted after.phase := by
  rw [rests.wanted]
  rcases rests.phase with same | ⟨waited, taken | closed⟩
  · rw [same]
    exact h
  · rw [waited] at h
    rw [taken]
    exact h
  · rw [closed]
    trivial

/-- A handshake that is awaited is the one that was left unfinished. -/
theorem awaits (h : Stands past session.wanted session.phase) {interest more : Readiness}
    (awaits : session.phase.awaits? = some interest) (unfinished : wanted past = some more) :
    interest = more := by
  cases phase : session.phase with
  | greeting other =>
    rw [phase] at h awaits
    cases awaits
    exact h.2.2.2 more unfinished
  | waiting armed other =>
    rw [phase] at h awaits
    cases awaits
    exact h.2.2 more unfinished
  | _ =>
    rw [phase] at awaits
    cases awaits

/-- The contacts of a step are allowed, however it ends. -/
theorem lawful (h : Stands past session.wanted session.phase) (before : Lawful past)
    (connection : Connection) (pool : BufferPool) :
    Lawful (past ++ session.contacts connection pool) := by
  have none : Lawful (past ++ []) := before.append fun _ _ mem => absurd mem List.not_mem_nil
  have waits {interest : Readiness} {later : List Contact}
      (awaits : session.phase.awaits? = some interest) (answer : Except IoError Readiness)
      (free : ∀ earlier, ∀ contact ∈ later, Permits earlier contact) :
      Lawful (past ++ .awaited interest answer :: later) := by
    have permits : Permits past (.awaited interest answer) := fun _ => h.awaits awaits
    rw [List.append_cons]
    exact (before.concat permits).append free
  unfold Session.contacts
  cases phase : session.phase with
  | registered | deciding | pausing deadline | closed => exact none
  | finishing polled =>
    simp only
    split
    · exact none
    · exact before.concat trivial
  | greeting interest =>
    simp only
    split
    · exact none
    · refine waits (by rw [phase]; rfl) _ fun earlier contact mem => ?_
      split at mem
      · cases mem
      · rw [List.mem_singleton.1 mem]
        trivial
  | waiting armed interest =>
    simp only
    split
    · exact none
    split
    · exact none
    · refine waits (by rw [phase]; rfl) _ fun earlier contact mem => ?_
      split at mem
      · cases mem
      · rcases List.mem_cons.1 mem with rfl | mem
        · trivial
        · split at mem
          · cases mem
          · rw [List.mem_singleton.1 mem]
            trivial
  | reading thenWrite =>
    rw [phase] at h
    obtain ⟨-, ready, cleared, read, -⟩ := h
    exact before.concat ⟨ready, cleared, read⟩
  | writing =>
    rw [phase] at h
    obtain ⟨-, ready, cleared, write⟩ := h
    simp only [Channel.writes]
    split
    · exact none
    · split
      · exact none
      · exact before.concat ⟨ready, cleared, write⟩

/-- A step keeps what the phase knows of the history. -/
theorem dealt (h : Stands past session.wanted session.phase) (dealt : Dealt session contacts after)
    (moves : session.phase.exchanges = true → ∀ contact ∈ contacts, contact.transfers = true) :
    Stands (past ++ contacts) after.wanted after.phase := by
  have served (greeted : Greeted past ∧ wanted past = session.wanted)
      (moves : ∀ contact ∈ contacts, contact.transfers = true) :
      Greeted (past ++ contacts) ∧ wanted (past ++ contacts) = session.wanted := by
    refine ⟨greeted.1.append _, ?_⟩
    rw [wanted_append, leaves_of_transfers moves, greeted.2]
  cases dealt with
  | looked phase channel =>
    rw [phase] at h
    obtain ⟨ungreeted, unbegun, kept⟩ := h
    exact ⟨ungreeted.append (by simp [settles]), by simp [leaves, unbegun], kept⟩
  | established phase channel =>
    rw [phase] at h
    obtain ⟨ungreeted, unbegun, kept⟩ := h
    refine ⟨ungreeted.append (by simp [settles]), by simp, kept, fun more unfinished => ?_⟩
    simp [leaves, unbegun] at unfinished
  | @greets interest ready progress more phase unfinished channel =>
    rw [phase] at h
    obtain ⟨ungreeted, established, kept, -⟩ := h
    refine ⟨ungreeted.append ?_, List.mem_append_left _ established, kept, fun other wanted => ?_⟩
    · cases progress with
      | done => cases unfinished
      | needRead | needWrite => simp [settles]
    · simpa [leaves, unfinished] using wanted
  | greeted phase channel =>
    rw [phase] at h
    obtain ⟨-, established, kept, -⟩ := h
    refine ⟨⟨List.mem_append_left _ established, _, List.mem_append_right _
      (List.mem_cons_of_mem _ List.mem_cons_self), rfl⟩, ?_⟩
    rw [kept]
    simp [leaves, Handshake.interest]
  | decided phase armed waits =>
    rw [phase] at h
    rw [List.append_nil]
    exact ⟨h.1, h.2, fun more unfinished => waits more (h.2 ▸ unfinished)⟩
  | heard phase =>
    rw [phase] at h
    rw [List.append_nil]
    exact ⟨h.1, h.2.1⟩
  | paused phase deadline =>
    rw [phase] at h
    exact ⟨h.1.append _, by simp [leaves, h.2.1]⟩
  | resumed phase =>
    rw [phase] at h
    rw [List.append_nil]
    exact h
  | shakes phase unfinished channel =>
    rw [phase] at h
    exact ⟨h.1.append _, by simp [leaves, unfinished]⟩
  | @shaken armed interest ready next phase channel serves =>
    rw [phase] at h
    have done : wanted (past ++ [Contact.awaited interest (.ok ready), .polled false,
        .shook ready (.ok .done)]) = none := by simp [leaves, Handshake.interest]
    have cleared : Cleared (past ++ [Contact.awaited interest (.ok ready), .polled false,
        .shook ready (.ok .done)]) ready :=
      ⟨past, interest, [], rfl, List.forall_mem_nil _, h.1.1⟩
    rcases serves with ⟨read, rfl⟩ | ⟨write, rfl⟩
    · exact ⟨⟨h.1.append _, done⟩, ready, cleared, read, id⟩
    · exact ⟨⟨h.1.append _, done⟩, ready, cleared, write⟩
  | @read thenWrite after phase count kept next =>
    have moves := moves (by rw [phase]; rfl)
    rw [phase] at h
    obtain ⟨greeted, ready, cleared, read, write⟩ := h
    rw [kept]
    rcases next with same | ⟨writes, same⟩ | same
    · rw [same]
      exact ⟨served greeted moves, ready, cleared.append moves, read, write⟩
    · rw [same]
      exact ⟨served greeted moves, ready, cleared.append moves, write writes⟩
    · rw [same]
      exact served greeted moves
  | wrote phase kept next =>
    have moves := moves (by rw [phase]; rfl)
    rw [phase] at h
    obtain ⟨greeted, ready, cleared, write⟩ := h
    rw [kept]
    rcases next with same | same
    · rw [same]
      exact ⟨served greeted moves, ready, cleared.append moves, write⟩
    · rw [same]
      exact served greeted moves
  | ended closed =>
    rw [closed]
    trivial

end Stands

namespace Client

/-! ## Histories of drivers -/

/-- The contacts that the driver of a session has had fit to where the session stands. -/
structure Follows (client : Client) (n : Nat) (past : List Contact) : Prop where
  lawful : Lawful past
  unmade : client.sessions[n]? = none → past = []
  stands : ∀ session, client.sessions[n]? = some session →
    Stands past session.wanted session.phase

variable {client next : Client} {n : Nat} {past : List Contact}

/-- In reading and writing all contacts are transfers. -/
theorem transfers_contacts {session : Session} {connection : Connection} (pool : BufferPool)
    (exchanges : session.phase.exchanges = true) :
    ∀ contact ∈ session.contacts connection pool, contact.transfers = true := by
  intro contact mem
  unfold Session.contacts at mem
  cases phase : session.phase with
  | reading thenWrite =>
    rw [phase] at mem
    rw [List.mem_singleton.1 mem]
    rfl
  | writing =>
    rw [phase] at mem
    simp only [Channel.writes] at mem
    split at mem
    · cases mem
    · split at mem
      · cases mem
      · rw [List.mem_singleton.1 mem]
        rfl
  | _ =>
    rw [phase] at exchanges
    cases exchanges

theorem Follows.perform (h : client.Follows n past) (orderly : client.Orderly) (action : Action) :
    (client.perform action).Follows n (past ++ client.contactsIn n action) := by
  have made : (client.perform action).sessions[n]? = none → client.sessions[n]? = none := by
    intro unmade
    have kept := (owners_perform orderly action).length_le
    rw [List.length_map, List.length_map] at kept
    exact List.getElem?_eq_none (kept.trans (List.getElem?_eq_none_iff.1 unmade))
  rcases steps_or_rests orderly action n with ⟨rfl, free, step⟩ | ⟨none, rested⟩
  · obtain ⟨session, connection, found, bound, after, channel, sessions, -, -, dealt⟩ :=
      exists_dealt_of_step? step
    rw [contactsIn_of_step? free step]
    have own : client.contacts n = session.contacts connection client.pool := by
      simp only [contacts, found, bound]
    have stands := h.stands session found
    refine ⟨?_, fun unmade => ?_, fun other there => ?_⟩
    · rw [own]
      exact stands.lawful h.lawful connection client.pool
    · rw [made unmade] at found
      cases found
    · rw [sessions, List.getElem?_set_self (List.getElem?_eq_some_iff.1 found).1,
        Option.some.injEq] at there
      subst there
      refine stands.dealt dealt ?_
      rw [own]
      exact transfers_contacts client.pool
  · rw [none, List.append_nil]
    refine ⟨h.lawful, fun unmade => h.unmade (made unmade), fun after there => ?_⟩
    rcases rested after there with ⟨before, found, rests⟩ | ⟨new, untouched, phase⟩
    · exact (h.stands before found).rests rests
    · rw [h.unmade new, untouched.wanted]
      rcases phase with registered | closed
      · rw [registered]
        exact ⟨fun _ mem => absurd mem List.not_mem_nil, rfl, rfl⟩
      · rw [closed]
        trivial

/-- A call brings no connection up, and resets no allowance. -/
theorem Placed.keeps {index : Nat} {connection : Connection} {request : Request}
    (h : client.Placed index connection request next)
    (found : client.connections[index]? = some connection) :
    ∃ after, next.connections = client.connections.set index after ∧
      (after.link = .connected → connection.link = .connected) ∧
        (after.allowance = connection.allowance ∨
          after.allowance = connection.allowance.recordFailure client.now) := by
  cases h with
  | refused down =>
    obtain ⟨lt, rfl⟩ := List.getElem?_eq_some_iff.1 found
    exact ⟨_, (List.set_getElem_self lt).symm, id, .inl rfl⟩
  | queued up link owed => exact ⟨_, rfl, id, .inl rfl⟩
  | blocked up link spent => exact ⟨_, rfl, id, .inl rfl⟩
  | opened up link permitted accepted session =>
    exact ⟨_, rfl, fun linked => (by cases linked), .inl rfl⟩
  | failed up link permitted cause refused unused => exact ⟨_, rfl, id, .inr rfl⟩
  | gone up link permitted accepted shut session => exact ⟨_, rfl, id, .inl rfl⟩

/-- The phase of a driver that has not connected knows of no handshake that was completed. -/
theorem Follows.ungreeted (h : client.Follows n past) {session : Session}
    (found : client.sessions[n]? = some session) (connects : session.phase.connects = true) :
    Ungreeted past := by
  have stands := h.stands session found
  cases phase : session.phase with
  | finishing polled | greeting interest =>
    rw [phase] at stands
    exact stands.1
  | _ =>
    rw [phase] at connects
    cases connects

end Client

end RemoteCall
