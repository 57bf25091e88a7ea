import ReplLink.Decimal.Numeral
import ReplLink.Toml.Node
import ReplLink.Toml.Scan

/-!
# Keys and simple values of TOML

Strings in their four forms, integers in four bases, decimals, truth values,
dates and times. Of decimals and moments only the form is checked, as no
setting takes one; an integer keeps its value, which has to fit in sixty-four
bits.
-/

namespace ReplLink.Toml

open ReplLink.Text ReplLink.Decimal

namespace Scan

/-- Space and tab. -/
def isSpace (c : Char) : Bool := c == ' ' || c == '\t'

/-- A character that a line may hold: no control character but the tab. -/
def isInLine (c : Char) : Bool := c == '\t' || (0x20 ≤ c.toNat && c.toNat ≠ 0x7F)

/-- Spaces and tabs. -/
def spaces : Scan Unit := do
  let _ ← many isSpace

/-- A line break, with or without a carriage return. -/
def lineBreak : Scan Unit := char '\n' <|> word "\r\n"

/-- A comment, without the line break behind it. -/
def comment : Scan Unit := do
  char '#'
  let _ ← many isInLine

/-- The rest of a line: blanks, a comment, and the line break or the end. -/
def lineEnd : Scan Unit := do
  spaces
  let _ ← optional comment
  lineBreak <|> atEnd

/-- Blanks, line breaks and whole comments. -/
def gap : Scan Unit :=
  rounds (fun () => do
    spaces
    match ← peek with
    | some '#' => comment; lineBreak; pure (.inl ())
    | some '\n' | some '\r' => lineBreak; pure (.inl ())
    | _ => pure (.inr ())) ()

/-- The character with a number of so many hexadecimal digits. -/
def numbered (digits : Nat) : Scan Char := do
  let digits ← exactly digits fun c => (Ascii.hexValue? c).isSome
  let n := digits.foldl (fun n c => 16 * n + (Ascii.hexValue? c).getD 0) 0
  if n.isValidChar then pure (Char.ofNat n) else failure

/-- What a backslash and the characters behind it stand for. -/
def escape : Scan Char := do
  match ← next with
  | 'b' => pure '\x08'
  | 't' => pure '\t'
  | 'n' => pure '\n'
  | 'f' => pure '\x0c'
  | 'r' => pure '\r'
  | '"' => pure '"'
  | '\\' => pure '\\'
  | 'u' => numbered 4
  | 'U' => numbered 8
  | _ => failure

/-- The rest of a string in double quotes, behind what is read in reverse. -/
def basicBody : Scan (List Char) :=
  rounds (fun text => do
    match ← next with
    | '"' => pure (.inr text.reverse)
    | '\\' => return .inl ((← escape) :: text)
    | c => if isInLine c then pure (.inl (c :: text)) else failure) []

/-- The rest of a string in single quotes. -/
def literalBody : Scan (List Char) := do
  let text ← many fun c => isInLine c && c != '\''
  char '\''
  pure text

/-- A run of quotes inside a string over several lines. Three of them end the
string, and up to two more in front of these belong to it. -/
def closing (mark : Char) (text : List Char) : Scan (List Char ⊕ List Char) := do
  let marks ← many (· == mark)
  if marks.length < 3 then pure (.inl (marks ++ text))
  else if marks.length ≤ 5 then pure (.inr ((marks.drop 3 ++ text).reverse))
  else failure

/-- Blanks behind a backslash that ends a line, up to the next text. -/
def continuation : Scan Unit := do
  spaces
  lineBreak
  rounds (fun () => do
    spaces
    match ← optional lineBreak with
    | some () => pure (.inl ())
    | none => pure (.inr ())) ()

/-- The rest of a string in three double quotes. -/
def basicLines : Scan (List Char) := do
  let _ ← optional lineBreak
  rounds (fun text => do
    match ← peek with
    | some '"' => closing '"' text
    | some '\\' =>
      char '\\'
      (do continuation; pure (.inl text)) <|> (do return .inl ((← escape) :: text))
    | some c =>
      if isInLine c then
        let _ ← next
        pure (.inl (c :: text))
      else
        lineBreak
        pure (.inl ('\n' :: text))
    | none => failure) []

/-- The rest of a string in three single quotes. -/
def literalLines : Scan (List Char) := do
  let _ ← optional lineBreak
  rounds (fun text => do
    match ← peek with
    | some '\'' => closing '\'' text
    | some c =>
      if isInLine c then
        let _ ← next
        pure (.inl (c :: text))
      else
        lineBreak
        pure (.inl ('\n' :: text))
    | none => failure) []

/-- A string on one line. -/
def shortString : Scan String := do
  match ← next with
  | '"' => return String.ofList (← basicBody)
  | '\'' => return String.ofList (← literalBody)
  | _ => failure

/-- A string of any form. -/
def string : Scan String :=
  (do word "\"\"\""; return String.ofList (← basicLines))
    <|> (do word "'''"; return String.ofList (← literalLines))
    <|> shortString

/-- A character of a key without quotes. -/
def isKeyChar (c : Char) : Bool :=
  ('a' ≤ c && c ≤ 'z') || ('A' ≤ c && c ≤ 'Z') || Ascii.isDigit c || c == '-' || c == '_'

/-- One part of a key. -/
def simpleKey : Scan String :=
  shortString <|> (do
    let name ← many isKeyChar
    if name.isEmpty then failure else return String.ofList name)

/-- The greatest number of parts that a key may have, and one more than the
greatest number of values in brackets or braces inside each other. -/
def nestingLimit : Nat := 80

/-- A key, part by part. -/
def key : Scan (List String) := do
  let parts ← rounds (fun parts => do
    spaces
    let part ← simpleKey
    spaces
    match ← optional (char '.') with
    | some () => pure (.inl (part :: parts))
    | none => pure (.inr (part :: parts).reverse)) []
  if parts.length < nestingLimit then pure parts else failure

/-- Digits of a class, with single underscores between them; the digits alone
are kept. -/
def grouped (isDigit : Char → Bool) : Scan (List Char) := do
  let first ← one isDigit
  rounds (fun digits => do
    match ← peek with
    | some '_' =>
      char '_'
      return .inl ((← one isDigit) :: digits)
    | some c =>
      if isDigit c then
        let _ ← next
        pure (.inl (c :: digits))
      else pure (.inr digits.reverse)
    | none => pure (.inr digits.reverse)) [first]

/-- An optional sign, `true` for minus. -/
def sign : Scan Bool :=
  (do char '-'; pure true) <|> (do char '+'; pure false) <|> pure false

/-- The digits of a decimal integer, which start with a zero only if that is all. -/
def wholeDigits : Scan (List Char) :=
  (do
    match ← peek with
    | some '0' => char '0'; pure ['0']
    | _ => grouped Ascii.isDigit)

/-- An integer that fits in sixty-four bits. -/
def checked (value : Int) : Scan Node :=
  if Int64.minValue.toInt ≤ value ∧ value ≤ Int64.maxValue.toInt then pure (.integer value)
  else failure

/-- An integer in a base other than ten, behind its mark. -/
def basedInteger (mark : String) (base : Nat) : Scan Node := do
  word mark
  let digits ← grouped fun c => (Ascii.hexValue? c).any (· < base)
  checked (digits.foldl (fun n c => base * n + (Ascii.hexValue? c).getD 0) 0)

/-- An integer. -/
def integer : Scan Node :=
  basedInteger "0x" 16 <|> basedInteger "0o" 8 <|> basedInteger "0b" 2 <|> (do
    let negative ← sign
    let digits ← wholeDigits
    let value : Int := naturalOfDigits digits
    checked (if negative then -value else value))

/-- The exponent of a decimal. -/
def exponent : Scan Int := do
  let _ ← one fun c => c == 'e' || c == 'E'
  let negative ← sign
  let value : Int := exponentOfDigits (← grouped Ascii.isDigit)
  pure (if negative then -value else value)

/-- A decimal with a point, an exponent or both. One that is too large is
refused. -/
def decimal : Scan Node := do
  let negative ← sign
  let whole ← wholeDigits
  let places ← optional (do char '.'; grouped Ascii.isDigit)
  let power ← if places.isSome then optional exponent else some <$> exponent
  let places := places.getD []
  let value := Binary64.ofDecimal negative (naturalOfDigits (whole ++ places))
    (power.getD 0 - places.length)
  if value.isInfinite && !negative then failure else pure .decimal

/-- One of the words for infinity and for no number. -/
def specialDecimal : Scan Node := do
  let _ ← sign
  word "inf" <|> word "nan"
  pure .decimal

/-- A number of so many digits within bounds. -/
def bounded (digits low high : Nat) : Scan Nat := do
  let value := naturalOfDigits (← exactly digits Ascii.isDigit)
  if low ≤ value ∧ value ≤ high then pure value else failure

/-- How many days a month has. -/
def daysOf (year month : Nat) : Nat :=
  if month = 2 then
    if year % 4 = 0 ∧ (year % 100 ≠ 0 ∨ year % 400 = 0) then 29 else 28
  else if month = 4 ∨ month = 6 ∨ month = 9 ∨ month = 11 then 30
  else 31

/-- A date. -/
def date : Scan Unit := do
  let year ← bounded 4 0 9999
  char '-'
  let month ← bounded 2 1 12
  char '-'
  let _ ← bounded 2 1 (daysOf year month)

/-- A time of day. -/
def time : Scan Unit := do
  let _ ← bounded 2 0 23
  char ':'
  let _ ← bounded 2 0 59
  char ':'
  let _ ← bounded 2 0 60
  let _ ← optional (do
    char '.'
    let _ ← one Ascii.isDigit
    let _ ← many Ascii.isDigit)

/-- The distance of a time zone. -/
def offset : Scan Unit := do
  match ← next with
  | 'Z' | 'z' => pure ()
  | '+' | '-' =>
    let _ ← bounded 2 0 23
    char ':'
    let _ ← bounded 2 0 59
  | _ => failure

/-- A date, a time, or both with or without a time zone. -/
def moment : Scan Node := do
  (do
    date
    let _ ← optional (do
      let _ ← one fun c => c == 'T' || c == 't' || c == ' '
      time
      let _ ← optional offset)) <|> time
  pure .moment

/-- A value without brackets and braces. -/
def scalar : Scan Node := do
  match ← peek with
  | some '"' | some '\'' => return .text (← string)
  | some 't' => word "true"; pure (.truth true)
  | some 'f' => word "false"; pure (.truth false)
  | some _ => moment <|> decimal <|> specialDecimal <|> integer
  | none => failure

end Scan

end ReplLink.Toml
