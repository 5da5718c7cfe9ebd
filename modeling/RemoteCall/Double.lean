/-!
# Magnitudes of double-precision numbers

A double has a significand of 53 bits and an exponent below 1024. A natural number rounds to the
nearest double, and to the one with an even significand if two are equally near. A product that
reaches half a unit above the largest double has no finite one near it.
-/
namespace RemoteCall.Double

/-- Round away the lowest `bits` bits: to the nearest, ties to even. -/
def roundBits (n bits : Nat) : Nat :=
  let unit := 1 <<< bits
  let low := n % unit
  let quotient := n / unit
  if unit < 2 * low ∨ (unit = 2 * low ∧ quotient % 2 = 1) then (quotient + 1) * unit
  else quotient * unit

/-- The nearest number with a significand of 53 bits. -/
def round (n : Nat) : Nat := roundBits n (n.log2 - 52)

/-- The least value that no finite double is near: the largest double and half a unit. -/
def overflow : Nat := 1 <<< 1024 - 1 <<< 970

/-- A significand times a power of ten, both rounded first, is beyond the largest double. -/
def scaledOverflows (significand exponent : Nat) : Bool :=
  overflow ≤ round significand * round (Nat.pow 10 exponent)

end RemoteCall.Double
