import Mathlib.Tactic.SplitIfs
import RemoteCall.Client.State

/-!
# Validity of settings

The times of valid settings are compared as whole numbers. The check adds them up in 64 bits, where
a sum that does not fit becomes the largest number. Such a sum is not below any time, so the check
cannot tell it from the exact one.
-/
namespace RemoteCall.Settings

/-- Settings that a client takes, by the exact values of their fields. -/
structure Valid (settings : Settings) : Prop where
  tick : 1 ≤ settings.tickMs.toNat
  fragment : 1 ≤ settings.maxFragmentSize.toNat
  timeouts : settings.requestTimeoutMs.toNat + 2 * settings.tickMs.toNat <
    settings.connectionTimeoutMs.toNat

instance (settings : Settings) : Decidable settings.Valid :=
  decidable_of_iff (1 ≤ settings.tickMs.toNat ∧ 1 ≤ settings.maxFragmentSize.toNat ∧
    settings.requestTimeoutMs.toNat + 2 * settings.tickMs.toNat <
      settings.connectionTimeoutMs.toNat)
    ⟨fun h => ⟨h.1, h.2.1, h.2.2⟩, fun h => ⟨h.tick, h.fragment, h.timeouts⟩⟩

/-- A sum in 64 bits is the exact one up to the largest number. -/
theorem toNat_saturatingAdd (a b : UInt64) :
    (saturatingAdd a b).toNat = min (a.toNat + b.toNat) (UInt64.size - 1) := by
  unfold saturatingAdd
  split
  · rename_i small
    rw [UInt64.toNat_add, Nat.mod_eq_of_lt small, Nat.min_eq_left (by omega)]
  · rename_i large
    rw [Nat.min_eq_right (by omega)]
    rfl

variable (settings : Settings)

theorem toNat_margin :
    settings.margin.toNat = min (2 * settings.tickMs.toNat) (UInt64.size - 1) := by
  rw [margin, toNat_saturatingAdd, Nat.two_mul]

/-- The time that a connection is to outlast. -/
theorem toNat_request_margin :
    (saturatingAdd settings.requestTimeoutMs settings.margin).toNat =
      min (settings.requestTimeoutMs.toNat + 2 * settings.tickMs.toNat) (UInt64.size - 1) := by
  rw [toNat_saturatingAdd, toNat_margin]
  omega

/-- No time exceeds the largest number, so a sum that was cut off there is not below one. -/
theorem request_margin_lt_iff :
    saturatingAdd settings.requestTimeoutMs settings.margin < settings.connectionTimeoutMs ↔
      settings.requestTimeoutMs.toNat + 2 * settings.tickMs.toNat <
        settings.connectionTimeoutMs.toNat := by
  have largest : settings.connectionTimeoutMs.toNat ≤ UInt64.size - 1 :=
    Nat.le_sub_one_of_lt settings.connectionTimeoutMs.toNat_lt
  rw [UInt64.lt_iff_toNat_lt, toNat_request_margin]
  omega

/-- The check accepts valid settings, and says of all others that they are badly configured. -/
theorem valid_or_refused :
    settings.Valid ∧ settings.validate = .ok () ∨
      ¬ settings.Valid ∧ ∃ text, settings.validate = .error (.configuration text) := by
  have positive (n : UInt64) : n ≠ 0 ↔ 1 ≤ n.toNat := by
    rw [Nat.one_le_iff_ne_zero]
    exact not_congr UInt64.toNat_inj.symm
  unfold validate
  split_ifs with tick timeouts fragment
  · exact .inr ⟨fun valid => (positive _).2 valid.tick tick, _, rfl⟩
  · refine .inr ⟨fun valid => ?_, _, rfl⟩
    exact UInt64.not_lt.2 timeouts (settings.request_margin_lt_iff.2 valid.timeouts)
  · refine .inr ⟨fun valid => ?_, _, rfl⟩
    exact absurd valid.fragment (by rw [fragment]; decide)
  · refine .inl ⟨⟨(positive _).1 tick, ?_, ?_⟩, rfl⟩
    · exact Nat.one_le_iff_ne_zero.2 fun none => fragment (UInt32.toNat_inj.1 none)
    · exact settings.request_margin_lt_iff.1 (UInt64.not_le.1 timeouts)

theorem valid_of_validate {settings : Settings} (h : settings.validate = .ok ()) :
    settings.Valid := by
  rcases settings.valid_or_refused with ⟨valid, -⟩ | ⟨-, text, refused⟩
  · exact valid
  · cases h.symm.trans refused

/-- A request times out two ticks before an idle connection does. -/
theorem Valid.durations {settings : Settings} (h : settings.Valid) :
    settings.requestTimeout + 2 * settings.tick < settings.connectionTimeout := by
  have scaled (request tick connection : Nat) (h : request + 2 * tick < connection) :
      request * 1000000 + 2 * (tick * 1000000) < connection * 1000000 := by omega
  exact scaled _ _ _ h.timeouts

/-- Settings are accepted just if they are valid by the exact values of their fields. All others are
refused as a bad configuration, and then no client is made of them either. No sum is ever wrong for
want of room: it is the exact one or, where that does not fit, the largest number. -/
theorem validated_exactly :
    (settings.validate = .ok () ↔ settings.Valid) ∧
    ((∃ text, settings.validate = .error (.configuration text)) ↔ ¬ settings.Valid) ∧
    (∀ parsers pool firstXid,
      ((∃ client, Client.build settings parsers pool firstXid = .ok client ∧
          client.settings = settings) ↔ settings.Valid) ∧
      ((∃ text, Client.build settings parsers pool firstXid = .error (.configuration text)) ↔
        ¬ settings.Valid)) ∧
    settings.margin.toNat = min (2 * settings.tickMs.toNat) (UInt64.size - 1) ∧
    (saturatingAdd settings.requestTimeoutMs settings.margin).toNat =
      min (settings.requestTimeoutMs.toNat + 2 * settings.tickMs.toNat) (UInt64.size - 1) := by
  refine ⟨?_, ?_, fun parsers pool firstXid => ?_, settings.toNat_margin,
    settings.toNat_request_margin⟩
  · rcases settings.valid_or_refused with ⟨valid, accepted⟩ | ⟨invalid, text, refused⟩
    · simp [valid, accepted]
    · simp [invalid, refused]
  · rcases settings.valid_or_refused with ⟨valid, accepted⟩ | ⟨invalid, text, refused⟩
    · simp [valid, accepted]
    · simp [invalid, refused]
  · rcases settings.valid_or_refused with ⟨valid, accepted⟩ | ⟨invalid, text, refused⟩
    · simp [Client.build, valid, accepted]
    · simp [Client.build, invalid, refused]

/-- With two ticks beyond 64 bits even the longest connection timeout is too short. -/
example :
    let settings : Settings :=
      { connectionTimeoutMs := 0xffffffffffffffff, tickMs := 0x8000000000000000 }
    ¬ settings.Valid := by decide

end RemoteCall.Settings
