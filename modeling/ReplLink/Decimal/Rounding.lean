import ReplLink.Decimal.Binary64

/-!
# The nearest double of a decimal

A decimal `digits * 10 ^ exponent` goes to the double nearest to it, and from
halfway between two doubles to the one with the even significand. The quotient
of two naturals is scaled until its integer part has fifty-three bits, or as
many as the smallest exponent leaves, and the remainder decides the last bit.
No intermediate value is rounded.
-/

namespace ReplLink.Decimal

/-- The quotient rounded to the nearest natural, a half to the even one. -/
def divideEven (numerator denominator : Nat) : Nat :=
  let quotient := numerator / denominator
  let twice := 2 * (numerator % denominator)
  if denominator < twice then quotient + 1
  else if twice = denominator then quotient + quotient % 2
  else quotient

/-- A quotient divided by a power of two of either sign, as a quotient. -/
def scaledQuotient (numerator denominator : Nat) (power : Int) : Nat × Nat :=
  if 0 ≤ power then (numerator, denominator * Nat.pow 2 power.toNat)
  else (numerator * Nat.pow 2 (-power).toNat, denominator)

/-- The power of two that leaves fifty-three bits before the point of
`numerator / denominator`, or the smallest that a double has. -/
def unitExponent (numerator denominator : Nat) : Int :=
  let guess : Int := max (-1074) ((numerator.log2 : Int) - denominator.log2 - 53)
  let (n, d) := scaledQuotient numerator denominator guess
  if n / d < 2 * Binary64.hiddenBit then guess else guess + 1

/-- The magnitude bits of the double nearest to a positive quotient. The carry
out of a significand of all ones moves into the exponent field by itself, and
the exponent field stops at infinity. -/
def nearestMagnitude (numerator denominator : Nat) : Nat :=
  let power := unitExponent numerator denominator
  let (n, d) := scaledQuotient numerator denominator power
  min ((power + 1074).toNat * Binary64.hiddenBit + divideEven n d) Binary64.infiniteMagnitude

/-- The magnitude bits of the double nearest to `digits * 10 ^ exponent`. -/
def magnitudeOfDecimal (digits : Nat) (exponent : Int) : Nat :=
  if digits = 0 then 0
  else if 0 ≤ exponent then nearestMagnitude (digits * Nat.pow 10 exponent.toNat) 1
  else nearestMagnitude digits (Nat.pow 10 (-exponent).toNat)

/-- The double nearest to a signed decimal. -/
def Binary64.ofDecimal (negative : Bool) (digits : Nat) (exponent : Int) : Binary64 :=
  .ofMagnitude negative (magnitudeOfDecimal digits exponent)

end ReplLink.Decimal
