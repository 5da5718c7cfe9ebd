import RemoteCall.Clock

/-!
# Allowance for connection attempts

Consecutive failures are counted, up to the largest 32-bit word. Below the allowed number an
attempt may always be made; from there on only once the back-off has passed since the last failure.
-/
namespace RemoteCall

structure RetryAllowance where
  maxAttempts : UInt32
  backoff : Duration
  failures : UInt32 := 0
  lastFailure : Option Instant := none
  deriving DecidableEq, Repr

namespace RetryAllowance

def canAttempt (allowance : RetryAllowance) (now : Instant) : Bool :=
  allowance.failures < allowance.maxAttempts ||
    match allowance.lastFailure with
    | none => true
    | some failure => allowance.backoff ≤ now.since failure

def recordFailure (allowance : RetryAllowance) (now : Instant) : RetryAllowance :=
  { allowance with
    failures := if allowance.failures = 0xffffffff then 0xffffffff else allowance.failures + 1
    lastFailure := some now }

def reset (allowance : RetryAllowance) : RetryAllowance :=
  { allowance with failures := 0, lastFailure := none }

@[simp] theorem failures_recordFailure (allowance : RetryAllowance) (now : Instant) :
    (allowance.recordFailure now).failures.toNat = min (allowance.failures.toNat + 1) 4294967295 := by
  unfold recordFailure
  simp only
  split
  · rename_i h; simp [h]
  · rename_i h
    have hlt : allowance.failures.toNat < 4294967296 := allowance.failures.toNat_lt
    have hne : allowance.failures.toNat ≠ 4294967295 := fun he => h (UInt32.toNat_inj.1 he)
    simp only [UInt32.toNat_add, UInt32.toNat_one]
    omega

end RetryAllowance

end RemoteCall
