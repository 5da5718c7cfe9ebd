import RemoteCall.Proofs.Client.Records

/-!
# The registry and the connections behind it

A destination has at most one entry in the registry, and the connection behind it is made for that
destination. A connection that is not asked to close is the one of its destination's entry.
Allowances are made after the settings, and one that does not permit an attempt belongs to a
connection that is disconnected, since a channel is asked for only where it does and time takes no
permission back.
-/
namespace RemoteCall

namespace RetryAllowance

/-- What is permitted stays so as time passes. -/
theorem canAttempt_mono {allowance : RetryAllowance} {now later : Instant} (h : now ≤ later)
    (permitted : allowance.canAttempt now = true) : allowance.canAttempt later = true := by
  unfold canAttempt at *
  rw [Bool.or_eq_true] at *
  refine permitted.imp_right fun passed => ?_
  cases failure : allowance.lastFailure with
  | none => rfl
  | some at_ =>
    rw [failure] at passed
    simp only [decide_eq_true_eq] at passed ⊢
    exact passed.trans (Nat.sub_le_sub_right h at_)

@[simp] theorem canAttempt_reset (allowance : RetryAllowance) (now : Instant) :
    allowance.reset.canAttempt now = true := by
  simp [canAttempt, reset]

end RetryAllowance

namespace Client

section

variable {client next : Client} {action : Action}

/-- Registry and connections fit together, and allowances fit the links and the settings. -/
structure Filed (client : Client) : Prop where
  keys : (client.registry.map Prod.fst).Nodup
  target : ∀ entry ∈ client.registry, ∀ connection,
    client.connections[entry.2]? = some connection → connection.target = entry.1
  filed : ∀ (index : Nat) connection, client.connections[index]? = some connection →
    connection.closeReason = none → (connection.target, index) ∈ client.registry
  limits : ∀ (index : Nat) connection, client.connections[index]? = some connection →
    connection.allowance.maxAttempts = client.settings.maxReconnectAttempts ∧
      connection.allowance.backoff = client.settings.reconnectBackoff
  permitted : ∀ (index : Nat) connection, client.connections[index]? = some connection →
    connection.link ≠ .disconnected → connection.allowance.canAttempt client.now = true

/-- With one entry for each destination, an entry is what is found for its destination. -/
theorem registered?_eq_some_iff (keys : (client.registry.map Prod.fst).Nodup) {target : Address}
    {index : Nat} : client.registered? target = some index ↔ (target, index) ∈ client.registry := by
  simp only [registered?, Option.map_eq_some_iff]
  constructor
  · rintro ⟨⟨key, value⟩, found, rfl⟩
    have same : key = target := by simpa using List.find?_some found
    exact same ▸ List.mem_of_find?_eq_some found
  · intro mem
    obtain ⟨entry, found⟩ : ∃ entry, client.registry.find? (·.1 == target) = some entry :=
      Option.isSome_iff_exists.1 (List.find?_isSome.2 ⟨_, mem, beq_self_eq_true target⟩)
    have same : entry.1 = target := by simpa using List.find?_some found
    have here : entry = (target, index) :=
      List.inj_on_of_nodup_map keys (List.mem_of_find?_eq_some found) mem same
    exact ⟨entry, found, by rw [here]⟩

theorem not_mem_of_registered? {target : Address} (unknown : client.registered? target = none) :
    target ∉ client.registry.map Prod.fst := by
  intro mem
  obtain ⟨entry, found, rfl⟩ := List.mem_map.1 mem
  simp only [registered?, Option.map_eq_none_iff, List.find?_eq_none] at unknown
  exact unknown entry found (beq_self_eq_true _)

/-- A sweep keeps the entry of every connection that it does not ask to close. -/
theorem Swept.unasked (h : client.Swept next) (valid : client.RegistryValid) {index : Nat}
    {after : Connection} (found : next.connections[index]? = some after)
    (unasked : after.closeReason = none) : ∃ before, client.connections[index]? = some before ∧
      before.closeReason = none ∧ ∀ entry ∈ client.registry, entry.2 = index →
        entry ∈ next.registry := by
  by_cases registered : ∃ entry ∈ client.registry, entry.2 = index
  · obtain ⟨entry, registered, rfl⟩ := registered
    have bound := List.getElem?_eq_getElem (valid entry registered)
    cases idle : client.isIdle entry with
    | true =>
      rw [h.evicted entry registered idle _ bound, Option.some.injEq] at found
      exact absurd unasked (found ▸ Connection.closeReason_retired _ .idle)
    | false =>
      rw [h.kept entry registered idle _ bound, Option.some.injEq] at found
      rw [← found] at unasked
      refine ⟨_, bound, unasked, fun other mem same => ?_⟩
      rw [h.registry, List.mem_filter, isIdle_congr same, idle]
      exact ⟨mem, rfl⟩
  · rw [h.others index fun entry mem same => registered ⟨entry, mem, same⟩] at found
    exact ⟨after, found, unasked, fun entry mem same => absurd ⟨entry, mem, same⟩ registered⟩

namespace Filed

/-- Records stay as they are, and entries are removed only together with a reason to close. -/
theorem of_records (h : client.Filed) (now : client.now ≤ next.now)
    (settings : next.settings = client.settings) (registry : next.registry.Sublist client.registry)
    (records : next.records = client.records)
    (unasked : ∀ (index : Nat) after, next.connections[index]? = some after →
      after.closeReason = none → ∃ before, client.connections[index]? = some before ∧
        before.closeReason = none ∧ ∀ entry ∈ client.registry, entry.2 = index →
          entry ∈ next.registry) : next.Filed := by
  have old {index : Nat} {after : Connection} (found : next.connections[index]? = some after) :
      ∃ before, client.connections[index]? = some before ∧ before.record = after.record :=
    exists_of_map_eq records found
  refine ⟨h.keys.sublist (registry.map _), fun entry mem after found => ?_,
    fun index after found none => ?_, fun index after found => ?_, fun index after found link => ?_⟩
  · obtain ⟨before, found', same⟩ := old found
    exact (congrArg Prod.fst same).symm.trans (h.target entry (registry.subset mem) before found')
  · obtain ⟨before, found', none, kept⟩ := unasked index after found none
    obtain ⟨other, there, same⟩ := old found
    rw [found', Option.some.injEq] at there
    have target : before.target = after.target := there ▸ congrArg Prod.fst same
    exact target ▸ kept _ (h.filed index before found' none) rfl
  · obtain ⟨before, found', same⟩ := old found
    have allowance : before.allowance = after.allowance := congrArg (·.2.1) same
    rw [← allowance, settings]
    exact h.limits index before found'
  · obtain ⟨before, found', same⟩ := old found
    have allowance : before.allowance = after.allowance := congrArg (·.2.1) same
    have links : before.link = after.link := congrArg (·.2.2.2) same
    rw [← allowance]
    exact RetryAllowance.canAttempt_mono now (h.permitted index before found' (links ▸ link))

/-- One connection is put back, with an allowance that fits its link. -/
theorem set (h : client.Filed) {index : Nat} {before after : Connection}
    (found : client.connections[index]? = some before)
    (connections : next.connections = client.connections.set index after)
    (registry : next.registry = client.registry) (now : next.now = client.now)
    (settings : next.settings = client.settings) (target : after.target = before.target)
    (closeReason : after.closeReason = before.closeReason)
    (maxAttempts : after.allowance.maxAttempts = before.allowance.maxAttempts)
    (backoff : after.allowance.backoff = before.allowance.backoff)
    (permitted : after.link ≠ .disconnected → after.allowance.canAttempt client.now = true) :
    next.Filed := by
  refine ⟨registry ▸ h.keys, fun entry mem other hother => ?_, fun other here hother none => ?_,
    fun other here hother => ?_, fun other here hother link => ?_⟩
  all_goals rw [connections] at hother
  · rw [registry] at mem
    rcases getElem?_set_cases hother with ⟨same, rfl⟩ | ⟨-, old⟩
    · exact target.trans (h.target entry mem before (same ▸ found))
    · exact h.target entry mem other old
  · rw [registry]
    rcases getElem?_set_cases hother with ⟨rfl, rfl⟩ | ⟨-, old⟩
    · exact target ▸ h.filed _ before found (closeReason.symm.trans none)
    · exact h.filed other here old none
  · rw [settings]
    rcases getElem?_set_cases hother with ⟨rfl, rfl⟩ | ⟨-, old⟩
    · rw [maxAttempts, backoff]
      exact h.limits _ before found
    · exact h.limits other here old
  · rw [now]
    rcases getElem?_set_cases hother with ⟨rfl, rfl⟩ | ⟨-, old⟩
    · exact permitted link
    · exact h.permitted other here old link

/-- Counting a call is not about connections. -/
theorem countCall (h : client.Filed) : client.countCall.Filed :=
  ⟨h.keys, h.target, h.filed, h.limits, h.permitted⟩

theorem located (h : client.Filed) (valid : client.RegistryValid) {target : Address} {index : Nat}
    {connection : Connection} (found : client.Located target index connection next) :
    next.Filed ∧ connection.target = target := by
  cases found with
  | known registered bound =>
    exact ⟨h, h.target _ ((registered?_eq_some_iff h.keys).1 registered) connection bound⟩
  | fresh unknown number =>
    refine ⟨⟨?_, fun entry mem other hother => ?_, fun here other hother none => ?_,
      fun here other hother => ?_, fun here other hother link => ?_⟩, rfl⟩
    · rw [List.map_append]
      refine List.nodup_append.2 ⟨h.keys, List.nodup_singleton _, fun key mem other mem' same => ?_⟩
      rw [List.map_singleton, List.mem_singleton] at mem'
      rw [same, mem'] at mem
      exact not_mem_of_registered? unknown mem
    · rcases List.mem_append.1 mem with old | new
      · have inside := (valid entry old).ne
        exact h.target entry old other
          ((getElem?_concat_cases hother).resolve_right fun last => inside last.1)
      · rw [List.mem_singleton.1 new, number] at hother
        rw [List.mem_singleton.1 new]
        rw [List.getElem?_concat_length, Option.some.injEq] at hother
        rw [← hother]
    all_goals rcases getElem?_concat_cases hother with old | ⟨last, rfl⟩
    · exact List.mem_append_left _ (h.filed here other old none)
    · exact List.mem_append_right _ (List.mem_singleton.2 (by rw [last, number]))
    · exact h.limits here other old
    · exact ⟨rfl, rfl⟩
    · exact h.permitted here other old link
    · exact absurd rfl link

theorem placed (h : client.Filed) {index : Nat} {connection : Connection} {request : Request}
    (found : client.connections[index]? = some connection)
    (placed : client.Placed index connection request next) : next.Filed := by
  cases placed with
  | refused down => exact ⟨h.keys, h.target, h.filed, h.limits, h.permitted⟩
  | queued up link owed =>
    exact h.set found rfl rfl rfl rfl rfl rfl rfl rfl (h.permitted index connection found)
  | blocked up link spent =>
    exact h.set found rfl rfl rfl rfl rfl rfl rfl rfl (h.permitted index connection found)
  | opened up link permitted accepted session =>
    exact h.set found rfl rfl rfl rfl rfl rfl rfl rfl fun _ => permitted
  | failed up link permitted cause refused unused =>
    exact h.set found rfl rfl rfl rfl rfl rfl rfl rfl fun linked => absurd link linked
  | gone up link permitted accepted shut session =>
    exact h.set found rfl rfl rfl rfl rfl rfl rfl rfl (h.permitted index connection found)

theorem tended (h : client.Filed) {n : Nat} {session : Session} {connection : Connection}
    (bound : client.connections[session.connection]? = some connection)
    (tended : client.TendedFrom n session connection next)
    (now : next.now = client.now) (settings : next.settings = client.settings)
    (registry : next.registry = client.registry) : next.Filed := by
  obtain ⟨session', connection', notices, tended, -, connections, -⟩ := tended
  obtain ⟨target, closeReason, -⟩ := tended.stays
  cases tended with
  | retained record connects swept =>
    have limits := record.allowance
    refine h.set bound connections registry now settings target closeReason (by rw [limits])
      (by rw [limits]) fun linked => ?_
    rw [limits]
    rcases record.link with same | down
    · exact h.permitted _ _ bound (same ▸ linked)
    · exact absurd down linked
  | connected before after =>
    exact h.set bound connections registry now settings target closeReason rfl rfl
      fun _ => RetryAllowance.canAttempt_reset _ _
  | failed cause before after unasked =>
    exact h.set bound connections registry now settings target closeReason rfl rfl
      fun linked => absurd rfl linked

theorem recorded (h : client.Filed) (valid : client.RegistryValid)
    (recorded : client.Recorded action next) : next.Filed := by
  cases recorded with
  | malformed call encoded => exact ⟨h.keys, h.target, h.filed, h.limits, h.permitted⟩
  | placed call encoded found placed =>
    exact (h.countCall.located valid found).1.placed found.found placed
  | tended n found bound tended frame =>
    exact h.tended bound tended (by rw [frame]) (by rw [frame]) (by rw [frame])
  | swept sweeps swept passing records =>
    refine h.of_records passing.now passing.settings ?_ records fun index after found none =>
      swept.unasked valid found none
    rw [swept.registry]
    exact List.filter_sublist
  | aside aside =>
    refine h.of_records aside.now aside.settings ?_ aside.records aside.unasked
    rcases aside.registry with same | none
    · rw [same]
    · rw [none]
      exact List.nil_sublist _

end Filed

theorem ReachableWhile.filed {P : Client → Prop} (h : client.ReachableWhile P) : client.Filed := by
  refine h.of_orderly (fun first built => ?_) fun client action orderly filed =>
    filed.recorded orderly.sound.valid (recorded_perform orderly.sound.valid action)
  obtain ⟨settings, parsers, pool, firstXid, rfl⟩ := built.exists_eq
  exact ⟨List.nodup_nil, List.forall_mem_nil _, fun index connection found => (by cases found),
    fun index connection found => (by cases found), fun index connection found => (by cases found)⟩

end

end Client

end RemoteCall
