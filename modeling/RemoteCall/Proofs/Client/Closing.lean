import RemoteCall.Proofs.Client.Ownership

/-!
# Orders to close

A connection leaves the registry only together with an order to close. So whatever is not
registered any more has a driver that was asked to close, if it has a driver at all.
-/
namespace RemoteCall.Client

/-- A connection that was not asked to close is registered. -/
def Retired (client : Client) : Prop :=
  ∀ (index : Nat) connection, client.connections[index]? = some connection →
    connection.closeReason = none → ∃ entry ∈ client.registry, entry.2 = index

section

variable {client next : Client}

/-- What connections were asked is the same. -/
theorem Retired.of_same (h : client.Retired) (registry : client.registry ⊆ next.registry)
    (closeReasons : next.connections.map Connection.closeReason =
      client.connections.map Connection.closeReason) : next.Retired := by
  intro index connection hc reason
  obtain ⟨before, hbefore, hsame⟩ := exists_of_map_eq closeReasons hc
  obtain ⟨entry, hentry, hindex⟩ := h index before hbefore (hsame.trans reason)
  exact ⟨entry, registry hentry, hindex⟩

/-- One connection changes, but not in what it was asked. -/
theorem Retired.set (h : client.Retired) {index : Nat} {connection connection' : Connection}
    (hc : client.connections[index]? = some connection)
    (closeReason : connection'.closeReason = connection.closeReason)
    (registry : next.registry = client.registry)
    (connections : next.connections = client.connections.set index connection') :
    next.Retired := by
  refine h.of_same (by rw [registry]; exact List.Subset.refl _) ?_
  rw [connections]
  exact map_set_of_eq _ hc closeReason

/-- What is without an order after several connections were removed from service is none of
these. -/
theorem unasked_retireAll (entries : List (Address × Nat)) (reason : CloseReason) (client : Client)
    {index : Nat} {connection : Connection}
    (hc : (entries.foldl (fun client entry => client.retireAndFail entry.2 reason)
      client).connections[index]? = some connection)
    (unasked : connection.closeReason = none) :
    client.connections[index]? = some connection ∧ ∀ entry ∈ entries, entry.2 ≠ index := by
  induction entries generalizing client with
  | nil => exact ⟨hc, by simp⟩
  | cons entry later ih =>
    obtain ⟨hbefore, hothers⟩ := ih (client.retireAndFail entry.2 reason) hc
    cases hentry : client.connections[entry.2]? with
    | none =>
      rw [retireAndFail_eq_self hentry] at hbefore
      refine ⟨hbefore, fun other hother => ?_⟩
      rcases List.mem_cons.1 hother with rfl | hother
      · intro same
        rw [same, hbefore] at hentry
        cases hentry
      · exact hothers other hother
    | some retired =>
      rw [retireAndFail_eq hentry] at hbefore
      rcases getElem?_set_cases hbefore with ⟨-, rfl⟩ | ⟨hindex, hbefore⟩
      · simp only [Connection.requestClose] at unasked
        cases hreason : retired.closeReason <;> simp [Connection.drain, hreason] at unasked
      · refine ⟨hbefore, fun other hother => ?_⟩
        rcases List.mem_cons.1 hother with rfl | hother
        · exact fun same => hindex same.symm
        · exact hothers other hother

/-- Taking expired requests leaves orders to close as they are. -/
theorem closeReasons_takeAllExpired (indices : List Nat) (client : Client) :
    (client.takeAllExpired indices).2.connections.map Connection.closeReason =
      client.connections.map Connection.closeReason := by
  induction indices generalizing client with
  | nil => rfl
  | cons first later ih =>
    apply (ih (client.takeExpired first).2).trans
    cases hfirst : client.connections[first]? with
    | none => rw [takeExpired_eq_self hfirst]
    | some connection =>
      rw [takeExpired_eq hfirst]
      exact map_set_of_eq _ hfirst rfl

theorem Retired.failOutstanding (h : client.Retired) : client.failOutstanding.Retired := by
  intro index connection hc reason
  obtain ⟨hbefore, hothers⟩ := unasked_retireAll client.registry .shutdown _ hc reason
  obtain ⟨entry, hentry, hindex⟩ := h index connection hbefore reason
  exact absurd hindex (hothers entry hentry)

theorem Retired.sweep (h : client.Retired) : client.sweep.Retired := by
  let kept := client.registry.filter (!client.isIdle ·)
  let started : Client := { client with registry := kept }
  intro index connection hc reason
  obtain ⟨hswept, hothers⟩ := unasked_retireAll (client.registry.filter client.isIdle) .idle
    (started.takeAllExpired (kept.map Prod.snd)).2 hc reason
  obtain ⟨before, hbefore, hsame⟩ :=
    exists_of_map_eq (closeReasons_takeAllExpired _ started) hswept
  obtain ⟨entry, hentry, hindex⟩ := h index before hbefore (hsame.trans reason)
  have busy : client.isIdle entry = false := by
    by_contra hidle
    exact hothers entry (List.mem_filter.2 ⟨hentry, by simpa using hidle⟩) hindex
  have registry : client.sweep.registry = kept := by
    unfold Client.sweep postFailures
    simp only
    rw [retireAll_frame, takeAllExpired_frame]
  refine ⟨entry, ?_, hindex⟩
  rw [registry]
  exact List.mem_filter.2 ⟨hentry, by simp [busy]⟩

/-- Closing sessions that are not taken up leaves orders to close as they are. -/
theorem closeReasons_discardAll (list : List Nat) (client : Client) :
    (list.foldl discard client).connections.map Connection.closeReason =
      client.connections.map Connection.closeReason := by
  induction list generalizing client with
  | nil => rfl
  | cons n later ih =>
    apply (ih (client.discard n)).trans
    unfold discard
    split
    · rfl
    · simp only
      split
      · rfl
      · rename_i connection hc
        exact map_set_of_eq _ hc rfl

theorem Retired.halt (h : client.Retired) : client.halt.Retired := by
  have failed : Retired { client.failOutstanding with
      registrations := [], registrationsOpen := false, loop := .joining } :=
    h.failOutstanding
  refine failed.of_same ?_ (closeReasons_discardAll client.failOutstanding.registrations _)
  rw [halt_frame, failOutstanding_frame]
  exact List.Subset.refl _

theorem Retired.worked (h : client.Retired) (noticed : Nat) : (client.worked noticed).Retired := by
  have spawned : ({ client with driversEnded := noticed } : Client).spawnAll.Retired := by
    refine h.of_same ?_ ?_
    · rw [spawnAll_frame]
      exact List.Subset.refl _
    · rw [spawnAll_frame]
  have swept (client : Client) (h : client.Retired) : client.sweepIfDue.Retired := by
    unfold sweepIfDue
    split
    · have noted : Retired { client with lastSweep := client.now } := h
      exact noted.sweep
    · exact h
  exact swept _ spawned

theorem Retired.enter (h : client.Retired) (loop : LoopPhase) : (client.enter loop).Retired := h

theorem Retired.turned (h : client.Retired) (turned : client.Turned next) : next.Retired := by
  cases turned with
  | began deadline loop changed =>
    rw [changed]
    exact h
  | halted lastSweep running waited down changed =>
    have noted : Retired { client with lastSweep := lastSweep } := h
    rw [changed]
    exact noted.halt
  | worked since loop up noticed changed =>
    rw [changed]
    exact (h.worked noticed).enter _
  | ended loop closed changed =>
    rw [changed]
    exact h

theorem Retired.send (h : client.Retired) (valid : client.RegistryValid) (call : Call) :
    (client.send call).Retired := by
  cases sent_send valid call with
  | malformed failure encoded changed =>
    rw [changed]
    exact h
  | submitted header encoded seat outcome =>
    rename_i index connection seated
    have seating : seated.Retired := by
      cases seat with
      | known _ _ => exact h
      | fresh number link empty unasked =>
        intro i other hother reason
        rcases getElem?_concat_cases hother with hother | ⟨hi, -⟩
        · obtain ⟨entry, hentry, hindex⟩ := h i other hother reason
          exact ⟨entry, List.mem_append_left _ hentry, hindex⟩
        · exact ⟨_, List.mem_append_right _ List.mem_cons_self, number.trans hi.symm⟩
    have hc := seat.found
    cases outcome with
    | refused down changed =>
      rw [changed]
      exact seating
    | queued up link connection' shared changed =>
      refine seating.set hc shared.closeReason ?_ (by rw [changed])
      rw [changed]
    | opened up link takesUp session own phase free connection' shared changed =>
      refine seating.set hc shared.closeReason ?_ (by rw [changed])
      rw [changed]
    | failed up link failure unused closed connection' shared changed =>
      refine seating.set hc shared.closeReason ?_ (by rw [changed])
      rw [changed]

theorem Retired.perform (h : client.Retired) (orderly : client.Orderly) (action : Action) :
    (client.perform action).Retired := by
  have performed := client.performed_perform action
  generalize client.perform action = next at performed
  cases performed with
  | sent call => exact h.send orderly.sound.valid call
  | turned free turned => exact h.turned turned
  | driven n found bound waited driven changed =>
    refine h.set bound driven.closeReason ?_ (by rw [changed])
    rw [changed]
  | toldPosted position found =>
    rw [deliver_eq]
    exact h
  | toldRejected position found =>
    rw [deliver_eq]
    exact h
  | notified found => exact h.set found (by exact rfl) rfl rfl
  | changed found channel => exact h
  | started up loop deadline => exact h
  | abandoned up loop =>
    rw [abandonLoop_frame]
    exact h
  | ended loop =>
    have down : Retired { client with shuttingDown := true } := h
    exact down.failOutstanding
  | flagged loop => exact h
  | aside same =>
    rw [same]
    exact h

end

theorem ReachableWhile.retired {P : Client → Prop} {client : Client}
    (h : client.ReachableWhile P) : client.Retired := by
  have both : client.Orderly ∧ client.Retired := by
    refine h.induct (fun first built => ⟨.built built, ?_⟩) fun client action _ before => ?_
    · obtain ⟨settings, parsers, pool, firstXid, rfl⟩ := built.exists_eq
      exact fun index connection hc => by simp at hc
    · exact ⟨before.1.perform action, before.2.perform before.1 action⟩
  exact both.2

end RemoteCall.Client
