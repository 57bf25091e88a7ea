/-!
# Byte classes of the wire

The interpreter's data are separated by ASCII characters only. This module
names the bytes that separate, open and close data, and the five bytes that
count as blank. Bytes of a character outside ASCII are in none of the classes,
so a scanner may look at one byte at a time.
-/

namespace ReplLink.Text

/-- A piece of the byte stream, in order of arrival. -/
abbrev Bytes := List UInt8

namespace Ascii

/-- The line feed, which ends a comment and a request line. -/
def lineFeed : UInt8 := 0x0A

/-- The double quote, which opens and closes a string. -/
def quote : UInt8 := 0x22

/-- The backslash, which takes the next byte of a string out of its meaning. -/
def backslash : UInt8 := 0x5C

/-- The byte that opens a list. -/
def listOpen : UInt8 := 0x28

/-- The byte that closes a list. -/
def listClose : UInt8 := 0x29

/-- The byte that starts a comment. -/
def semicolon : UInt8 := 0x3B

/-- Blank bytes: space, tab, line feed, form feed and carriage return. The
vertical tab is not one of them. -/
def isBlank (b : UInt8) : Bool :=
  b == 0x20 || b == 0x09 || b == 0x0A || b == 0x0C || b == 0x0D

/-- Delimiters end an atom: blanks, both list brackets, the quote and the
start of a comment. -/
def isDelimiter (b : UInt8) : Bool :=
  isBlank b || b == listOpen || b == listClose || b == quote || b == semicolon

/-- ASCII decimal digits; no other script's digits are numerals here. -/
def isDigit (c : Char) : Bool := '0' ≤ c && c ≤ '9'

/-- The value of an ASCII decimal digit. -/
def digitValue (c : Char) : Nat := c.toNat - '0'.toNat

/-- The value of an ASCII hexadecimal digit of either case. -/
def hexValue? (c : Char) : Option Nat :=
  if '0' ≤ c && c ≤ '9' then some (c.toNat - '0'.toNat)
  else if 'a' ≤ c && c ≤ 'f' then some (c.toNat - 'a'.toNat + 10)
  else if 'A' ≤ c && c ≤ 'F' then some (c.toNat - 'A'.toNat + 10)
  else none

/-- The lower-case hexadecimal digit of a value below sixteen. -/
def hexDigit (n : Nat) : Char :=
  if n < 10 then Char.ofNat ('0'.toNat + n) else Char.ofNat ('a'.toNat + (n - 10))

end Ascii

end ReplLink.Text
