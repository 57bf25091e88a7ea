/-!
# Double-precision numbers as bit patterns

A number of the interpreter is kept as its sixty-four bits, so that signed
zeros, infinities and the payload of a NaN pass through unchanged. The finite
ones are read as `significand * 2 ^ scale`, exactly.
-/

namespace ReplLink.Decimal

/-- A double-precision number, as its interchange bits. -/
structure Binary64 where
  /-- Sign, exponent field and fraction field, from the top. -/
  bits : UInt64
  deriving DecidableEq, Repr, Inhabited

namespace Binary64

/-- The bit above the fraction field, which a normal number does not store. -/
def hiddenBit : Nat := 0x10000000000000

/-- The top bit. -/
def signBit : Nat := 0x8000000000000000

/-- The magnitude of the infinities: all ones in the exponent field. -/
def infiniteMagnitude : Nat := 2047 * hiddenBit

/-- The bits without the sign bit. -/
def magnitude (x : Binary64) : Nat := x.bits.toNat % signBit

/-- The sign bit. Zeros and NaNs have one too. -/
def negative (x : Binary64) : Bool := signBit ≤ x.bits.toNat

/-- Neither a number nor an infinity. -/
def isNaN (x : Binary64) : Bool := infiniteMagnitude < x.magnitude

/-- One of the two infinities. -/
def isInfinite (x : Binary64) : Bool := x.magnitude == infiniteMagnitude

/-- Neither an infinity nor a NaN. -/
def isFinite (x : Binary64) : Bool := x.magnitude < infiniteMagnitude

/-- The number with a given sign and magnitude. -/
def ofMagnitude (negative : Bool) (magnitude : Nat) : Binary64 :=
  ⟨UInt64.ofNat (magnitude + if negative then signBit else 0)⟩

/-- The integer whose multiple by a power of two a finite magnitude is. -/
def significand (magnitude : Nat) : Nat :=
  if magnitude < hiddenBit then magnitude else magnitude % hiddenBit + hiddenBit

/-- The exponent of that power of two. -/
def scale (magnitude : Nat) : Int :=
  if magnitude < hiddenBit then -1074 else (magnitude / hiddenBit : Nat) - 1075

end Binary64

end ReplLink.Decimal
