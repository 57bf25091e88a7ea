import ReplLink.Datum.Printer
import ReplLink.Text.Ascii

/-!
# The JSON form of a datum

Lists become arrays, strings and symbols become strings, and a number that
JSON has no word for becomes `null`. Nothing is put between the elements but a
comma, and no control character below the space stays unescaped, so a value
always fits on one line.
-/

namespace ReplLink.Datum

open ReplLink.Text ReplLink.Decimal

/-- Doubles are positional from a hundred-thousandth up to sixteen digits,
with `.0` kept; a positive exponent has a plus sign. -/
def jsonLayout : Layout where
  tie := .even
  leastPositional := -5
  leastLarge := 16
  exponentSign := "+"
  notANumber := "null"
  infinity := "null"
  negativeInfinity := "null"

/-- A character of a JSON string. -/
def jsonChar : Char → List Char
  | '"' => ['\\', '"']
  | '\\' => ['\\', '\\']
  | '\n' => ['\\', 'n']
  | '\r' => ['\\', 'r']
  | '\t' => ['\\', 't']
  | '\x08' => ['\\', 'b']
  | '\x0c' => ['\\', 'f']
  | c =>
    if c.toNat < 0x20 then
      ['\\', 'u', '0', '0', Ascii.hexDigit (c.toNat / 16), Ascii.hexDigit (c.toNat % 16)]
    else [c]

/-- A JSON string. -/
def jsonString (text : List Char) : List Char := '"' :: (text.flatMap jsonChar ++ ['"'])

mutual

/-- The JSON form. -/
def json : Datum → List Char
  | int value => (toString value.toInt).toList
  | float value => jsonLayout.render value
  | str text => jsonString text.toList
  | symbol name => jsonString name.toList
  | list items => '[' :: (jsonItems items ++ [']'])

/-- The elements of an array. -/
def jsonItems : List Datum → List Char
  | [] => []
  | [item] => json item
  | item :: next :: rest => json item ++ ',' :: jsonItems (next :: rest)

end

end ReplLink.Datum
