import RemoteCall.Proofs.Client.Channels

/-!
# Channels after the shutdown

When the loop has ended every channel is closed. It is the loop that closes channels which were not
taken up, so a client that was never started leaves those open in its registration queue: its
shutdown fails their requests, but only letting go of the client closes them. A start that fails has
dropped that queue, so it leaves no channel open either.
-/
namespace RemoteCall.Client

/-- The client is shut down and no loop runs: no driver is at work, and none will be. -/
structure Over (client : Client) : Prop where
  down : client.shuttingDown = true
  halted : client.isRunning = false
  asleep : ∀ session ∈ client.sessions, session.phase = .registered ∨ session.phase = .closed

/-- Which of the channels that were ever opened are closed. -/
def closings (client : Client) : List Bool :=
  client.sessions.map fun session => session.channel.closed

section

variable {client next : Client}

/-- Once a start was tried, no session is left if no loop runs. -/
theorem ReachableWhile.closed_of_tried {P : Client → Prop} (h : client.ReachableWhile P)
    (idle : client.isRunning = false) (tried : client.loop ≠ .stopped) :
    ∀ session ∈ client.sessions, session.phase = .closed := by
  intro session mem
  cases loop : client.loop with
  | stopped => exact absurd loop tried
  | absent =>
    obtain ⟨n, found⟩ := List.mem_iff_getElem?.1 mem
    exact (h.orderly.sound.deserted loop).2 n session found
  | ended =>
    have closed := ((h.stopping (.inr loop)).ended loop).2
    simpa using List.all_eq_true.1 closed session mem
  | probing deadline | turning since | joining => simp [isRunning, loop] at idle

/-- No driver is at work before the loop starts, nor after it has ended. -/
theorem ReachableWhile.over {P : Client → Prop} (h : client.ReachableWhile P)
    (down : client.shuttingDown = true) (idle : client.isRunning = false) : client.Over := by
  refine ⟨down, idle, fun session mem => ?_⟩
  by_cases stopped : client.loop = .stopped
  · obtain ⟨n, found⟩ := List.mem_iff_getElem?.1 mem
    exact h.orderly.sound.unstarted stopped n session found
  · exact .inr (h.closed_of_tried idle stopped session mem)

namespace Over

theorem of_same (h : client.Over) (down : next.shuttingDown = client.shuttingDown)
    (loop : next.loop = client.loop) (sessions : next.sessions = client.sessions) :
    next.Over ∧ next.closings = client.closings := by
  refine ⟨⟨down.trans h.down, ?_, ?_⟩, ?_⟩
  · rw [isRunning, loop]
    exact h.halted
  · rw [sessions]
    exact h.asleep
  · rw [closings, closings, sessions]

/-- Whatever happens afterwards, no channel is opened and none is closed. -/
theorem perform (h : client.Over) (valid : client.RegistryValid) (action : Action) :
    (client.perform action).Over ∧ (client.perform action).closings = client.closings := by
  have performed := client.performed_perform action
  generalize client.perform action = next at performed
  cases performed with
  | sent call =>
    obtain ⟨failure, fresh, entries, -, -, changed⟩ := send_of_down valid h.down call
    rw [changed]
    exact h.of_same rfl rfl rfl
  | turned free turned =>
    have halted := h.halted
    cases turned with
    | began deadline loop changed | worked since loop up noticed changed
    | ended loop closed changed =>
      simp [isRunning, loop] at halted
    | halted lastSweep running waited down changed => simp [running] at halted
  | driven n found bound waited driven changed handled =>
    rcases h.asleep _ (List.mem_of_getElem? found) with registered | closed
    · exact absurd registered waited
    · exact absurd closed driven.live
  | toldPosted position found | toldRejected position found =>
    rw [deliver_eq]
    exact h.of_same rfl rfl rfl
  | notified found => exact h.of_same rfl rfl rfl
  | changed found channel shut accepted =>
    rename_i n session
    refine ⟨⟨h.down, h.halted, fun other mem => ?_⟩, ?_⟩
    · rcases List.mem_or_eq_of_mem_set mem with old | rfl
      · exact h.asleep other old
      · exact h.asleep session (List.mem_of_getElem? found)
    · exact map_set_of_eq (fun session : Session => session.channel.closed) found (by exact shut)
  | started up loop deadline | abandoned up loop => simp [h.down] at up
  | ended loop =>
    have down : Over { client with shuttingDown := true } := ⟨rfl, h.halted, h.asleep⟩
    rw [failOutstanding_frame]
    exact down.of_same rfl rfl rfl
  | flagged loop => exact h.of_same h.down.symm rfl rfl
  | aside same =>
    rw [same]
    exact h.of_same rfl rfl rfl

theorem run (h : client.Over) (orderly : client.Orderly) (run : Run client next) :
    next.closings = client.closings := by
  suffices all : next.Orderly ∧ next.Over ∧ next.closings = client.closings from all.2.2
  induction run with
  | refl => exact ⟨orderly, h, rfl⟩
  | tail _ _ action ih =>
    obtain ⟨orderly, over', same⟩ := ih
    obtain ⟨over'', same'⟩ := over'.perform orderly.sound.valid action
    exact ⟨orderly.perform action, over'', same'.trans same⟩

/-- The channels left open are those that wait to be taken up. -/
theorem open_iff (h : client.Over) (sealed : client.Sealed)
    (awaiting : client.Awaiting client.registrations) {n : Nat} {session : Session}
    (found : client.sessions[n]? = some session) :
    session.channel.closed = false ↔ n ∈ client.registrations := by
  have own := sealed session (List.mem_of_getElem? found)
  refine Iff.trans ?_ (awaiting.2 n).symm
  constructor
  · intro unshut
    refine ⟨session, found, (h.asleep session (List.mem_of_getElem? found)).resolve_right ?_⟩
    exact sealed.live found unshut
  · rintro ⟨other, found', waiting⟩
    rw [found, Option.some.injEq] at found'
    exact own.waiting (found' ▸ waiting)

end Over

/-! ## Letting go of the client -/

/-- Once the client is let go nobody holds an open channel, if no loop runs. -/
theorem ReachableWhile.closed_dismiss (h : client.Reachable) (down : client.shuttingDown = true)
    (idle : client.isRunning = false) :
    ∀ session ∈ client.dismiss.sessions, session.channel.closed = true := by
  have reachable : client.shutdown.Reachable := h.perform .shutdown
  have over' : client.shutdown.Over :=
    ((h.over down idle).perform h.orderly.sound.valid .shutdown).1
  intro session mem
  unfold dismiss at mem
  simp only at mem
  split at mem
  · obtain ⟨n, found⟩ := List.mem_iff_getElem?.1 mem
    obtain ⟨before, there, ⟨rfl, apart⟩ | ⟨rfl, -⟩⟩ := exists_of_dropRegistrations found
    · by_contra unshut
      refine apart ((over'.open_iff reachable.sealed reachable.orderly.awaiting there).1 ?_)
      simpa using unshut
    · rfl
  · rename_i tried
    exact (reachable.sealed session mem).ended
      (reachable.closed_of_tried over'.halted tried session mem)

/-- After the shutdown, as soon as no loop runs, no channel is opened or closed any more. If a start
was tried, every channel that was ever opened is closed. If not, those are open that wait in the
registration queue, and they stay so until the client is let go, which closes them. -/
theorem channels_after_shutdown (h : client.Reachable) (down : client.shuttingDown = true)
    (idle : client.isRunning = false) :
    (client.loop ≠ .stopped → ∀ session ∈ client.sessions, session.channel.closed = true) ∧
    (client.loop = .stopped → ∀ (n : Nat) session, client.sessions[n]? = some session →
      (session.channel.closed = false ↔ n ∈ client.registrations)) ∧
    (∀ next, Run client next → next.closings = client.closings) ∧
    ∀ session ∈ client.dismiss.sessions, session.channel.closed = true :=
  ⟨fun tried session mem => (h.sealed session mem).ended (h.closed_of_tried idle tried session mem),
    fun _ _ _ found =>
      (h.over down idle).open_iff h.sealed h.orderly.awaiting found,
    fun _ run => (h.over down idle).run h.orderly run, h.closed_dismiss down idle⟩

end

/-- A client that makes a call and is shut down before it was started. -/
def abandoned : Client := usual.performAll [.send nullCall, .shutdown]

theorem reachable_abandoned : abandoned.Reachable :=
  ⟨usual, built_usual, run_performAll usual _⟩

theorem channels_after_shutdown_abandoned : abandoned.closings = [false] ∧
    abandoned.dismiss.closings = [true] ∧
    ∀ next, Run abandoned next → next.closings = [false] := by
  have left : abandoned.closings = [false] := by decide +kernel
  obtain ⟨-, -, stays, -⟩ := channels_after_shutdown reachable_abandoned (by decide +kernel)
    (by decide +kernel)
  exact ⟨left, by decide +kernel, fun next run => (stays next run).trans left⟩

/-- The shutdown of a client that was never started may leave a channel open. -/
theorem shutdown_leaves_channel_open : ¬ ∀ client : Client, client.Reachable →
    client.shuttingDown = true → client.isRunning = false →
      ∀ session ∈ client.sessions, session.channel.closed = true := by
  intro closes
  have all := closes abandoned reachable_abandoned (by decide +kernel) (by decide +kernel)
  have one : (abandoned.sessions.all fun session => session.channel.closed) = false := by
    decide +kernel
  rw [List.all_eq_true.2 all] at one
  cases one

end RemoteCall.Client
