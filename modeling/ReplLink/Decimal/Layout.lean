import ReplLink.Decimal.Shortest

/-!
# Written forms of a double

A `Layout` holds the decisions a format makes about numbers: where positional
notation ends, what an exponent looks like, and the words for what is no
number. `Layout.render` writes a double by them, with the fewest digits that
read back.
-/

namespace ReplLink.Decimal

/-- How a format writes doubles. -/
structure Layout where
  /-- Which of two equally near shortest texts is written. -/
  tie : Tie
  /-- The least power of ten of the first digit that is written positionally. -/
  leastPositional : Int
  /-- The least power of ten of the first digit that is written with an exponent again. -/
  leastLarge : Int
  /-- What stands between the exponent mark and an exponent of zero or more. -/
  exponentSign : String
  /-- The text of a NaN. -/
  notANumber : String
  /-- The text of the positive infinity. -/
  infinity : String
  /-- The text of the negative infinity. -/
  negativeInfinity : String
  deriving DecidableEq, Repr

namespace Layout

/-- Digits with a point behind `point` of them, filled with zeros on either
side, and at least one digit on both sides of the point. -/
def positional (digits : List Char) (point : Int) : List Char :=
  if point ≤ 0 then '0' :: '.' :: (List.replicate (-point).toNat '0' ++ digits)
  else if digits.length ≤ point.toNat then
    digits ++ List.replicate (point.toNat - digits.length) '0' ++ ['.', '0']
  else digits.take point.toNat ++ '.' :: digits.drop point.toNat

/-- Digits with a point behind the first of them and a power of ten; a single
digit has no point. -/
def scientific (exponentSign : String) (digits : List Char) (exponent : Int) : List Char :=
  let mantissa :=
    match digits with
    | first :: second :: rest => first :: '.' :: second :: rest
    | short => short
  let power :=
    if exponent < 0 then '-' :: Nat.toDigits 10 exponent.natAbs
    else exponentSign.toList ++ Nat.toDigits 10 exponent.natAbs
  mantissa ++ 'e' :: power

/-- The text of a positive decimal. -/
def decimal (layout : Layout) (digits : Nat) (exponent : Int) : List Char :=
  let all := Nat.toDigits 10 digits
  let point := exponent + all.length
  let kept := (all.reverse.dropWhile (· == '0')).reverse
  if layout.leastPositional < point && point ≤ layout.leastLarge then positional kept point
  else scientific layout.exponentSign kept (point - 1)

/-- The text of a finite magnitude. -/
def magnitude (layout : Layout) (bits : Nat) : List Char :=
  if bits = 0 then ['0', '.', '0']
  else
    let (digits, exponent) := shortest layout.tie bits
    layout.decimal digits exponent

/-- The text of a double. A zero keeps its sign and a NaN has none. -/
def render (layout : Layout) (x : Binary64) : List Char :=
  if x.isNaN then layout.notANumber.toList
  else if x.isInfinite then
    (if x.negative then layout.negativeInfinity else layout.infinity).toList
  else if x.negative then '-' :: layout.magnitude x.magnitude
  else layout.magnitude x.magnitude

end Layout

end ReplLink.Decimal
