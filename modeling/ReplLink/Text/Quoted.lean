import ReplLink.Text.Printable

/-!
# Quoted text in messages

A text inside a message stands in double quotes. The quote, the backslash and
four control characters have escapes of their own; any other character that
cannot be seen is written by its number.
-/

namespace ReplLink.Text

/-- A character of a quoted text. -/
def quotedChar : Char → List Char
  | '"' => ['\\', '"']
  | '\\' => ['\\', '\\']
  | '\n' => ['\\', 'n']
  | '\r' => ['\\', 'r']
  | '\t' => ['\\', 't']
  | '\x00' => ['\\', '0']
  | c =>
    if isPrintable c then [c]
    else '\\' :: 'u' :: '\x7b' :: (Nat.toDigits 16 c.toNat ++ ['\x7d'])

/-- A text in double quotes, every character of it visible. -/
def quote (text : String) : String :=
  String.ofList ('"' :: (text.toList.flatMap quotedChar ++ ['"']))

end ReplLink.Text
