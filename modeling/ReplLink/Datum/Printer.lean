import ReplLink.Datum.Basic
import ReplLink.Decimal.Layout

/-!
# The printed form of a datum

What is printed is what the reader of the wire takes back: strings in quotes
with the five escapes that the reader knows, list elements one space apart,
and doubles with a point or an exponent so that they are not read as integers.
-/

namespace ReplLink.Datum

open ReplLink.Decimal

/-- Doubles are positional from a ten-thousandth up to sixteen digits, with
`.0` kept; an exponent has no plus sign. -/
def numberLayout : Layout where
  tie := .up
  leastPositional := -4
  leastLarge := 16
  exponentSign := ""
  notANumber := "NaN"
  infinity := "inf"
  negativeInfinity := "-inf"

/-- A character of a string as it is printed. -/
def escapeChar : Char → List Char
  | '"' => ['\\', '"']
  | '\\' => ['\\', '\\']
  | '\n' => ['\\', 'n']
  | '\t' => ['\\', 't']
  | '\r' => ['\\', 'r']
  | c => [c]

/-- A string as it is printed. -/
def quoted (text : List Char) : List Char := '"' :: (text.flatMap escapeChar ++ ['"'])

mutual

/-- The printed form. -/
def print : Datum → List Char
  | int value => (toString value.toInt).toList
  | float value => numberLayout.render value
  | str text => quoted text.toList
  | symbol name => name.toList
  | list items => '(' :: (printItems items ++ [')'])

/-- The elements of a list, one space between each two. -/
def printItems : List Datum → List Char
  | [] => []
  | [item] => print item
  | item :: next :: rest => print item ++ ' ' :: printItems (next :: rest)

end

/-- The printed form as a string. -/
def display (datum : Datum) : String := String.ofList datum.print

end ReplLink.Datum
