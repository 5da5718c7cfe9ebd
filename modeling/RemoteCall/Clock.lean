/-!
# Instants and durations

Time is counted in whole nanoseconds. An instant is a distance from the start of the clock, so the
difference of two instants stops at zero. A duration has a largest value, at which sums stop.
-/
namespace RemoteCall

abbrev Instant := Nat

abbrev Duration := Nat

namespace Duration

/-- The largest duration: `2 ^ 64` seconds less one nanosecond. -/
def longest : Duration := UInt64.size * 1000000000 - 1

def ofMillis (ms : Nat) : Duration := ms * 1000000

/-- The sum, or the largest duration if that is smaller. -/
def add (a b : Duration) : Duration := min (a + b) longest

theorem add_of_le (a b : Duration) (h : a + b ≤ longest) : add a b = a + b :=
  Nat.min_eq_left h

end Duration

/-- The time from `earlier` to `later`, zero if the order is the other one. -/
def Instant.since (later earlier : Instant) : Duration := later - earlier

end RemoteCall
