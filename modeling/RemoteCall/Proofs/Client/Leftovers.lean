import RemoteCall.Proofs.Client.Filing
import RemoteCall.Proofs.Client.Shutdown

/-!
# The registry after the shutdown

The shutdown empties the registry once, at its end. A call that is made afterwards is refused, but
only after the connection of its destination was looked for, and made if there was none. So the
registry fills again with the destinations of refused calls. The connections behind these entries
are never used: they open no channel, and their counters stay at zero.
-/
namespace RemoteCall

/-- No channel is asked for, nothing is outstanding and nothing was counted. -/
structure Connection.Unused (connection : Connection) : Prop where
  link : connection.link = .disconnected
  empty : connection.outstanding = []
  uncounted : connection.statistics = {}

namespace Client

/-- The loop takes no turns any more, or never took one, and it is too late to start it. -/
structure Gone (client : Client) : Prop where
  down : client.shuttingDown = true
  halted : client.loop = .stopped ∨ client.loop = .joining ∨ client.loop = .ended

/-- The action is the one at which a shutdown empties the registry: the call for it, if there is no
loop, and otherwise the turn that is the last. -/
inductive Empties (client : Client) : Action → Prop where
  | unstarted (loop : client.loop = .stopped) : Empties client .shutdown
  | left (before : client.loop ≠ .joining) (after : (client.perform .turn).loop = .joining) :
      Empties client .turn

/-- The destinations registered after an action on a client that is gone, if these were registered
before. -/
def listed (client : Client) (targets : List Address) : Action → List Address
  | .send call =>
      match (client.headerFor call).encode call.credentials with
      | .error _ => targets
      | .ok _ => if call.target ∈ targets then targets else targets ++ [call.target]
  | .shutdown => if client.loop = .stopped then [] else targets
  | _ => targets

/-- The destinations registered after several actions. -/
def listedAll (client : Client) (targets : List Address) : List Action → List Address
  | [] => targets
  | action :: later => (client.perform action).listedAll (client.listed targets action) later

/-- Exactly these destinations are registered, with connections that are not used. -/
structure Lists (client : Client) (targets : List Address) : Prop where
  keys : client.registry.map Prod.fst = targets
  unused : ∀ entry ∈ client.registry, ∃ connection,
    client.connections[entry.2]? = some connection ∧ connection.Unused

section

variable {client next : Client} {targets : List Address}

namespace Lists

theorem of_same (h : client.Lists targets) (registry : next.registry = client.registry)
    (connections : next.connections = client.connections) : next.Lists targets := by
  refine ⟨by rw [registry]; exact h.keys, ?_⟩
  rw [registry, connections]
  exact h.unused

/-- A connection changes that is not registered, or stays unused. -/
theorem set (h : client.Lists targets) {index : Nat} {connection : Connection}
    (registry : next.registry = client.registry)
    (connections : next.connections = client.connections.set index connection)
    (unused : ∀ entry ∈ client.registry, entry.2 = index → connection.Unused) :
    next.Lists targets := by
  refine ⟨by rw [registry]; exact h.keys, fun entry mem => ?_⟩
  rw [registry] at mem
  obtain ⟨before, found, own⟩ := h.unused entry mem
  rw [connections]
  by_cases here : index = entry.2
  · rw [← here]
    refine ⟨connection, List.getElem?_set_self ?_, unused entry mem here.symm⟩
    rw [here]
    exact (List.getElem?_eq_some_iff.1 found).1
  · exact ⟨before, by rw [List.getElem?_set_ne here]; exact found, own⟩

theorem mem_iff (h : client.Lists targets) {target : Address} :
    target ∈ targets ↔ client.registered? target ≠ none := by
  rw [← h.keys]
  refine ⟨fun mem unknown => not_mem_of_registered? unknown mem, fun known => ?_⟩
  obtain ⟨index, registered⟩ := Option.ne_none_iff_exists'.1 known
  simp only [registered?, Option.map_eq_some_iff] at registered
  obtain ⟨entry, found, -⟩ := registered
  have same : entry.1 = target := by simpa using List.find?_some found
  exact List.mem_map.2 ⟨entry, List.mem_of_find?_eq_some found, same⟩

/-- What is registered has counted nothing. -/
theorem statistics? (h : client.Lists targets) (target : Address) :
    client.statistics? target = if target ∈ targets then some {} else none := by
  rw [Client.statistics?]
  split
  · rename_i mem
    obtain ⟨index, registered⟩ := Option.ne_none_iff_exists'.1 (h.mem_iff.1 mem)
    have there : ∃ entry ∈ client.registry, entry.2 = index := by
      simp only [registered?, Option.map_eq_some_iff] at registered
      obtain ⟨entry, found, same⟩ := registered
      exact ⟨entry, List.mem_of_find?_eq_some found, same⟩
    obtain ⟨entry, mem, rfl⟩ := there
    obtain ⟨connection, found, unused⟩ := h.unused entry mem
    rw [registered]
    simp [found, unused.uncounted]
  · rename_i unlisted
    have unknown : client.registered? target = none := by
      by_contra known
      exact unlisted (h.mem_iff.2 known)
    rw [unknown]
    rfl

/-- A refused call registers its destination, if it gets as far as that. -/
theorem send (h : client.Lists targets) (valid : client.RegistryValid)
    (down : client.shuttingDown = true) (call : Call) :
    (client.send call).Lists (client.listed targets (.send call)) := by
  rcases malformed_or_placed valid call with ⟨failure, encoded, changed⟩ |
    ⟨header, encoded, index, connection, located, found, placed⟩
  · rw [changed, listed, encoded]
    exact h.of_same rfl rfl
  have refused : client.send call = located.reject
      [{ client.requestFor call with header := header }] .shutDown := by
    have down : located.shuttingDown = true := by
      rw [found.frame]
      exact down
    generalize client.send call = next at placed
    cases placed with
    | refused _ => rfl
    | queued up | blocked up | opened up | failed up | gone up =>
      rw [down] at up
      cases up
  rw [refused, listed, encoded]
  simp only
  cases found with
  | known registered bound =>
    have there : client.registered? call.target = some index := registered
    have mem : call.target ∈ targets := h.mem_iff.2 (by rw [there]; exact Option.some_ne_none _)
    rw [if_pos mem]
    exact h.of_same rfl rfl
  | fresh unknown number =>
    have new : call.target ∉ targets := fun mem => h.mem_iff.1 mem unknown
    rw [if_neg new]
    refine ⟨?_, fun entry mem => ?_⟩
    · show (client.registry ++ [(call.target, index)]).map Prod.fst = _
      rw [List.map_append, h.keys]
      rfl
    · rcases List.mem_append.1 mem with old | fresh
      · obtain ⟨before, there, unused⟩ := h.unused entry old
        exact ⟨before, List.getElem?_append_left (List.getElem?_eq_some_iff.1 there).1 ▸ there,
          unused⟩
      · rw [List.mem_singleton.1 fresh, number]
        exact ⟨_, List.getElem?_concat_length, rfl, rfl, rfl⟩

end Lists

namespace Gone

theorem of_same (h : client.Gone) (down : next.shuttingDown = client.shuttingDown)
    (loop : next.loop = client.loop) : next.Gone :=
  ⟨down.trans h.down, by rw [loop]; exact h.halted⟩

theorem perform (h : client.Gone) (valid : client.RegistryValid) (action : Action) :
    (client.perform action).Gone := by
  have performed := client.performed_perform action
  generalize client.perform action = next at performed
  cases performed with
  | sent call =>
    obtain ⟨failure, fresh, entries, -, -, changed⟩ := send_of_down valid h.down call
    rw [changed]
    exact h.of_same rfl rfl
  | turned free turned =>
    cases turned with
    | began deadline loop changed => rcases h.halted with at' | at' | at' <;> simp [loop] at at'
    | halted lastSweep running waited down changed =>
      rcases h.halted with at' | at' | at' <;> simp_all [isRunning]
    | worked since loop up noticed changed => simp [h.down] at up
    | ended loop closed changed =>
      rw [changed]
      exact ⟨h.down, .inr (.inr rfl)⟩
  | driven n found bound waited driven changed handled =>
    rw [changed]
    exact h.of_same rfl rfl
  | toldPosted position found | toldRejected position found =>
    rw [deliver_eq]
    exact h.of_same rfl rfl
  | notified found => exact h.of_same rfl rfl
  | changed found channel shut accepted => exact h.of_same rfl rfl
  | started up loop deadline | abandoned up loop => simp [h.down] at up
  | ended loop =>
    rw [failOutstanding_frame]
    exact ⟨rfl, h.halted⟩
  | flagged loop => exact ⟨rfl, h.halted⟩
  | aside same =>
    rw [same]
    exact h.of_same rfl rfl

end Gone

/-- A registered connection that is not used has no driver. -/
theorem Lists.drive (h : client.Lists targets) (sound : client.Sound) (n : Nat) :
    (client.perform (.drive n)).Lists targets := by
  rcases client.perform_drive_eq n with same | ⟨-, step⟩
  · rw [same]
    exact h
  obtain ⟨session, connection, found, bound, session', connection', notices, displaced, driven, -,
    changed⟩ := exists_driven_handled step
  refine h.set (by rw [changed]) (by rw [changed]) fun entry mem own => ?_
  obtain ⟨registered, there, unused⟩ := h.unused entry mem
  obtain ⟨owned, there', link⟩ := sound.owner n session found driven.live
  rw [← own, there, Option.some.injEq] at there'
  rw [← there', unused.link] at link
  exact absurd (SessionPhase.link_eq_disconnected_iff.1 link.symm) driven.live

theorem Lists.turn (h : client.Lists targets) (gone : client.Gone) :
    (client.perform .turn).Lists targets := by
  rcases client.perform_turn_eq with same | ⟨-, turned⟩
  · rw [same]
    exact h
  generalize client.perform .turn = next at turned
  cases turned with
  | began deadline loop changed =>
    rcases gone.halted with at' | at' | at' <;> simp [loop] at at'
  | halted lastSweep running waited down changed =>
    rcases gone.halted with at' | at' | at' <;> simp_all [isRunning]
  | worked since loop up noticed changed => simp [gone.down] at up
  | ended loop closed changed =>
    rw [changed]
    exact h.of_same rfl rfl

/-- Of the actions that are neither a call nor a turn nor a step of a driver, only a shutdown
changes what is registered. -/
theorem Lists.minor {action : Action} (h : client.Lists targets) (gone : client.Gone)
    (call : ∀ call, action ≠ .send call) (minor : client.Minor action next) :
    next.Lists (client.listed targets action) := by
  cases minor with
  | toldPosted _ | toldRejected _ =>
    rw [deliver_eq]
    exact h.of_same rfl rfl
  | notified found =>
    refine h.set rfl rfl fun entry mem own => ?_
    obtain ⟨before, there, unused⟩ := h.unused entry mem
    rw [own, found, Option.some.injEq] at there
    exact there ▸ ⟨unused.link, unused.empty, unused.uncounted⟩
  | changed _ => exact h.of_same rfl rfl
  | started up loop deadline | abandoned up loop fails => simp [gone.down] at up
  | ended loop =>
    rw [listed, if_pos loop, failOutstanding_frame]
    exact ⟨rfl, List.forall_mem_nil _⟩
  | flagged loop =>
    rw [listed, if_neg loop]
    exact h.of_same rfl rfl
  | aside other later same =>
    have kept : client.listed targets action = targets := by
      cases action with
      | send sent => exact absurd rfl (call sent)
      | shutdown => exact absurd rfl other
      | _ => rfl
    rw [kept, same]
    exact h.of_same rfl rfl

/-- Once the registry was emptied, every action leaves in it what `listed` says. -/
theorem Lists.perform (h : client.Lists targets) (gone : client.Gone) (sound : client.Sound)
    (action : Action) : (client.perform action).Lists (client.listed targets action) := by
  cases action with
  | send call => exact h.send sound.valid gone.down call
  | turn => exact h.turn gone
  | drive n => exact h.drive sound n
  | _ => exact h.minor gone (by simp) (client.minor_perform (by simp) (by simp) (by simp))

theorem Lists.performAll (h : client.Lists targets) (gone : client.Gone)
    (orderly : client.Orderly) (actions : List Action) :
    (client.performAll actions).Lists (client.listedAll targets actions) := by
  induction actions generalizing client targets with
  | nil => exact h
  | cons action later ih =>
    exact ih (h.perform gone orderly.sound action) (gone.perform orderly.sound.valid action)
      (orderly.perform action)

/-- The action that empties the registry leaves no entry, and the client is gone. -/
theorem Empties.gone {action : Action} (h : client.Empties action) :
    (client.perform action).Gone ∧ (client.perform action).Lists [] := by
  cases h with
  | unstarted loop =>
    show client.shutdown.Gone ∧ client.shutdown.Lists []
    unfold shutdown
    simp only
    rw [if_pos loop, failOutstanding_frame]
    exact ⟨⟨rfl, .inl loop⟩, rfl, List.forall_mem_nil _⟩
  | left before after =>
    obtain ⟨lastSweep, halted, -, -, down⟩ := exists_halt_of_left before after
    rw [halted, halt_frame]
    exact ⟨⟨down, .inr (.inl rfl)⟩, rfl, List.forall_mem_nil _⟩

/-- From the action on that empties the registry, exactly those destinations are registered that
`listedAll` says: calls that are refused put them there. Their connections are not used, so each
shows statistics, and they are all zero. -/
theorem registry_after_shutdown {action : Action} (h : client.Reachable)
    (empties : client.Empties action) (actions : List Action) :
    let emptied := client.perform action
    let last := emptied.performAll actions
    let targets := emptied.listedAll [] actions
    last.registry.map Prod.fst = targets ∧ last.connectionCount = targets.length ∧
      (∀ target, last.statistics? target = if target ∈ targets then some {} else none) ∧
      ∀ entry ∈ last.registry, ∃ connection,
        last.connections[entry.2]? = some connection ∧ connection.Unused := by
  intro emptied last targets
  have orderly : emptied.Orderly := ReachableWhile.orderly (h.perform action)
  have lists : last.Lists targets := empties.gone.2.performAll empties.gone.1 orderly actions
  refine ⟨lists.keys, ?_, lists.statistics?, lists.unused⟩
  rw [connectionCount, ← lists.keys, List.length_map]

end

theorem registry_after_shutdown_refilled :
    let last := (usual.perform .shutdown).performAll [.send nullCall]
    last.connectionCount = 1 ∧ last.statistics? nullCall.target = some {} := by
  have reachable : usual.Reachable := ⟨usual, built_usual, .refl⟩
  have targets : (usual.perform .shutdown).listedAll [] [.send nullCall] = [nullCall.target] := by
    decide +kernel
  obtain ⟨-, count, statistics, -⟩ :=
    registry_after_shutdown reachable (.unstarted rfl) [.send nullCall]
  rw [targets] at count
  refine ⟨count, (statistics nullCall.target).trans ?_⟩
  rw [targets]
  rfl

/-- The registry does not stay empty after the shutdown. -/
theorem registry_refills : ¬ ∀ (client : Client) (action : Action) (actions : List Action),
    client.Reachable → client.Empties action →
      ((client.perform action).performAll actions).connectionCount = 0 ∧
        ∀ target, ((client.perform action).performAll actions).statistics? target = none := by
  intro empty
  have none := empty usual .shutdown [.send nullCall] ⟨usual, built_usual, .refl⟩ (.unstarted rfl)
  have one : ((usual.perform .shutdown).performAll [.send nullCall]).connectionCount = 1 := by
    decide +kernel
  rw [none.1] at one
  cases one

end Client

end RemoteCall
