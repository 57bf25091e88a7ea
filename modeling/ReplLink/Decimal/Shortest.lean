import ReplLink.Decimal.Rounding

/-!
# The fewest digits that read back

A finite double has an exact decimal expansion. Its shortest text is found by
cutting that expansion after one, two, and so on up to seventeen digits: the
first cut with a neighbour that reads back as the same double wins, and of two
such neighbours the nearer. The reader of `Decimal.Rounding` itself is the
test, so what is printed reads back whatever else is true of the search.
-/

namespace ReplLink.Decimal

/-- Which of two equally near neighbours is printed. -/
inductive Tie where
  /-- The larger one. -/
  | up
  /-- The one whose last digit is even. -/
  | even
  deriving DecidableEq, Repr

/-- The exact decimal expansion of a finite magnitude: digits and the power
of ten that they are multiplied by. -/
def expansion (magnitude : Nat) : Nat × Int :=
  let power := Binary64.scale magnitude
  if 0 ≤ power then (Binary64.significand magnitude * Nat.pow 2 power.toNat, 0)
  else (Binary64.significand magnitude * Nat.pow 5 (-power).toNat, power)

/-- How many decimal digits a natural has; zero has one. -/
def digitCount (n : Nat) : Nat := (Nat.toDigits 10 n).length

/-- Of the two neighbours of `digits` on the grid of multiples of `unit`, the
one to print, as a multiple of `unit`: the only one that passes the test, or
the nearer of both. -/
def neighbour? (tie : Tie) (passes : Nat → Bool) (digits unit : Nat) : Option Nat :=
  let low := digits / unit
  let high := low + 1
  let twice := 2 * (digits % unit)
  match passes low, passes high with
  | true, true =>
    if twice < unit then some low
    else if unit < twice then some high
    else match tie with
      | .up => some high
      | .even => some (low + low % 2)
  | true, false => some low
  | false, true => some high
  | false, false => none

/-- The first passing cut after `count` digits or more, within `fuel` tries. -/
def shortestFrom (tie : Tie) (magnitude digits : Nat) (exponent : Int) (fuel count : Nat) :
    Option (Nat × Int) :=
  match fuel with
  | 0 => none
  | fuel + 1 =>
    let dropped := digitCount digits - count
    let place := exponent + dropped
    let passes := fun candidate => magnitudeOfDecimal candidate place == magnitude
    match neighbour? tie passes digits (Nat.pow 10 dropped) with
    | some candidate => some (candidate, place)
    | none => shortestFrom tie magnitude digits exponent fuel (count + 1)

/-- The shortest decimal that reads back as a finite nonzero magnitude. Should
seventeen digits not do, the exact expansion stands. -/
def shortest (tie : Tie) (magnitude : Nat) : Nat × Int :=
  let (digits, exponent) := expansion magnitude
  (shortestFrom tie magnitude digits exponent 17 1).getD (digits, exponent)

end ReplLink.Decimal
