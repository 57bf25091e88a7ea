import ReplLink.Text.Ascii
import ReplLink.Text.Blank

/-!
# Request lines

A request is one line: a record of the namespace tokens, the request's id and
the code, with both texts in quotes.

    (ns = [:Main, :Plots], reqid = "3fa81c07", code = "plot(x)")

`Request.encode` writes the line and `Request.decode` reads it. Escaping keeps
every line break and every other ASCII control character out of the quoted
texts, so that the line break at the end is the only one.
-/

namespace ReplLink

open ReplLink.Text

/-- What a request line says. -/
structure Request where
  /-- The namespace, token by token. -/
  namespaceTokens : List String
  /-- The id under which the response comes back. -/
  id : String
  /-- The code to evaluate. -/
  code : String
  deriving DecidableEq, Repr

namespace Request

/-- A character of a quoted text. The dollar sign would start an interpolation
in the interpreter's strings. -/
def escapeChar : Char → List Char
  | '\\' => ['\\', '\\']
  | '"' => ['\\', '"']
  | '$' => ['\\', '$']
  | '\n' => ['\\', 'n']
  | '\r' => ['\\', 'r']
  | '\t' => ['\\', 't']
  | c =>
    if c.toNat < 0x20 || c.toNat = 0x7F then
      ['\\', 'x', Ascii.hexDigit (c.toNat / 16), Ascii.hexDigit (c.toNat % 16)]
    else [c]

/-- A text as it stands between the quotes. -/
def escape (text : String) : String := String.ofList (text.toList.flatMap escapeChar)

/-- The request line, with its line break. -/
def encode (request : Request) : String :=
  let tokens := ", ".intercalate (request.namespaceTokens.map (":" ++ ·))
  "(ns = [" ++ tokens ++ "], reqid = \"" ++ escape request.id ++ "\", code = \""
    ++ escape request.code ++ "\")\n"

/-- Why a line is no request. -/
inductive Malformed where
  /-- The line does not start as a record of a namespace list. -/
  | noNamespaceList
  /-- The namespace list is not closed. -/
  | openNamespaceList
  /-- An element of the namespace list lacks its colon. -/
  | tokenWithoutColon
  /-- No id follows the namespace list. -/
  | noId
  /-- The id is not a quoted text. -/
  | badId
  /-- No code follows the id. -/
  | noCode
  /-- The code is not a quoted text. -/
  | badCode
  /-- The line does not end behind the code. -/
  | trailing
  deriving DecidableEq, Repr

/-- The reason in words. -/
def Malformed.reason : Malformed → String
  | noNamespaceList => "missing namespace list"
  | openNamespaceList => "unterminated namespace list"
  | tokenWithoutColon => "namespace token without ':'"
  | noId => "missing reqid field"
  | badId => "bad reqid string"
  | noCode => "missing code field"
  | badCode => "bad code string"
  | trailing => "trailing data after record"

/-- The wording of the refusal. -/
def Malformed.message (why : Malformed) : String := "Malformed request line: " ++ why.reason

/-- The value of two characters behind `\x`. A plus sign may take the place of
the first digit. -/
def hexPair? (high low : Char) : Option Nat :=
  match Ascii.hexValue? low with
  | none => none
  | some units =>
    if high = '+' then some units else (Ascii.hexValue? high).map (16 * · + units)

/-- The text up to the closing quote, behind what is already read in reverse
order, and what follows the quote. A backslash in front of a character without
a meaning of its own stands for that character. -/
def quotedBody (read : List Char) : List Char → Option (List Char × List Char)
  | [] => none
  | '"' :: rest => some (read.reverse, rest)
  | '\\' :: 'n' :: rest => quotedBody ('\n' :: read) rest
  | '\\' :: 'r' :: rest => quotedBody ('\r' :: read) rest
  | '\\' :: 't' :: rest => quotedBody ('\t' :: read) rest
  | '\\' :: 'x' :: rest =>
    match rest with
    | high :: low :: rest =>
      match hexPair? high low with
      | some n => quotedBody (Char.ofNat n :: read) rest
      | none => none
    | _ => none
  | '\\' :: c :: rest => quotedBody (c :: read) rest
  | ['\\'] => none
  | c :: rest => quotedBody (c :: read) rest

/-- A quoted text at the front of `text`, and what follows it. -/
def quoted? (text : List Char) : Option (String × List Char) :=
  match text with
  | '"' :: body => (quotedBody [] body).map fun (text, rest) => (String.ofList text, rest)
  | _ => none

/-- The tokens of a namespace list. Blanks around a token are dropped. -/
def tokens? (list : List Char) : Option (List String) :=
  (list.splitOn ',').mapM fun token => (after? [':'] (trim token)).map String.ofList

/-- Takes `value?` out of an optional result or fails with `why`. -/
def require {α : Type} (why : Malformed) : Option α → Except Malformed α
  | some value => .ok value
  | none => .error why

/-- Reads a request line, with or without its line break. -/
def decode (line : String) : Except Malformed Request := do
  let text := line.toList
  let text := if text.getLast? = some '\n' then text.dropLast else text
  let rest ← require .noNamespaceList (after? "(ns = [".toList text)
  let list := rest.takeWhile (· != ']')
  let rest ← require .openNamespaceList (after? [']'] (rest.drop list.length))
  let tokens ← require .tokenWithoutColon (tokens? list)
  let rest ← require .noId (after? ", reqid = ".toList rest)
  let (id, rest) ← require .badId (quoted? rest)
  let rest ← require .noCode (after? ", code = ".toList rest)
  let (code, rest) ← require .badCode (quoted? rest)
  if rest = [')'] then .ok ⟨tokens, id, code⟩ else .error .trailing

end Request

end ReplLink
