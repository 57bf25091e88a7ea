import ReplLink.Decimal.Digits
import ReplLink.Decimal.Rounding
import ReplLink.Text.Ascii

/-!
# Decimal numerals

The written form of integers and of decimals: an optional sign, digits with an
optional point among or beside them, and an optional power of ten. Words such
as `inf` are no numerals.
-/

namespace ReplLink.Decimal

open ReplLink.Text

/-- The natural that a run of digits writes. -/
def naturalOfDigits (digits : List Char) : Nat :=
  ofDigits 10 (digits.reverse.map Ascii.digitValue)

/-- A run of digits is read from left to right. -/
theorem naturalOfDigits_eq_foldl (digits : List Char) :
    naturalOfDigits digits
      = digits.foldl (fun value digit => 10 * value + Ascii.digitValue digit) 0 := by
  simp only [naturalOfDigits, ofDigits_eq_foldr, List.foldr_map, List.foldr_reverse,
    Nat.add_comm]

/-- A text split into its sign, `true` for minus, and the rest. -/
def splitSign : List Char → Bool × List Char
  | '-' :: rest => (true, rest)
  | '+' :: rest => (false, rest)
  | text => (false, text)

/-- A text split behind its longest run of digits. -/
def splitDigits (text : List Char) : List Char × List Char :=
  (text.takeWhile Ascii.isDigit, text.dropWhile Ascii.isDigit)

/-- A whole text as a numeral with an optional sign of either kind in front of
at least one digit, whose digits have the value `value`. -/
def signed? (value : List Char → Nat) (text : List Char) : Option Int :=
  let (negative, digits) := splitSign text
  if digits.isEmpty || !digits.all Ascii.isDigit then none
  else if negative then some (-(value digits : Int))
  else some (value digits)

/-- A whole text as an integer numeral. -/
def integer? (text : List Char) : Option Int := signed? naturalOfDigits text

/-- An exponent that is not below this takes no more digits. -/
def exponentBound : Nat := 0x10000

/-- The exponent that a run of digits writes. Digits behind the first of its
fronts that reaches `exponentBound` do not count, which only a numeral with
tens of thousands of places can tell. -/
def exponentOfDigits (digits : List Char) : Nat :=
  digits.foldl
    (fun value digit =>
      if value < exponentBound then 10 * value + Ascii.digitValue digit else value)
    0

/-- The power of ten behind `e` or `E`; none is written as nothing at all. -/
def exponent? : List Char → Option Int
  | [] => some 0
  | mark :: rest => if mark = 'e' || mark = 'E' then signed? exponentOfDigits rest else none

/-- A decimal numeral: sign, all its digits as one natural, and the power of
ten that the point and the written exponent give. -/
structure Numeral where
  /-- A minus sign is written. -/
  negative : Bool
  /-- The digits before and behind the point, read as one natural. -/
  digits : Nat
  /-- The power of ten by which `digits` is multiplied. -/
  exponent : Int
  deriving DecidableEq, Repr

/-- A whole text as a decimal numeral. A point may stand at either end of the
digits but not alone. -/
def Numeral.ofText? (text : List Char) : Option Numeral :=
  let (negative, unsigned) := splitSign text
  let (whole, rest) := splitDigits unsigned
  let (places, rest) :=
    match rest with
    | '.' :: behind => splitDigits behind
    | _ => ([], rest)
  if whole.isEmpty && places.isEmpty then none
  else
    (exponent? rest).map fun exponent =>
      ⟨negative, naturalOfDigits (whole ++ places), exponent - places.length⟩

/-- The double that a numeral stands for. -/
def Numeral.toBinary64 (numeral : Numeral) : Binary64 :=
  .ofDecimal numeral.negative numeral.digits numeral.exponent

end ReplLink.Decimal
