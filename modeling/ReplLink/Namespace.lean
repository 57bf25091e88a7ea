import ReplLink.Text.Blank
import ReplLink.Text.Quoted

/-!
# Namespaces

Code is evaluated in a namespace of the interpreter. Users name one by a
dotted name or by a list of segments, each of which may be dotted itself; both
come down to one list of tokens, which is what a request carries. A token that
could be mistaken for something else in a request line is refused, and the
refusal names the first such token and the path as the user wrote it.
-/

namespace ReplLink

open ReplLink.Text

/-- Where a piece of code is evaluated. -/
inductive Namespace where
  /-- The interpreter's outermost namespace. -/
  | root
  /-- A dotted name. -/
  | dotted (name : String)
  /-- Segments from the outside in, each of which may be dotted. -/
  | segments (names : List String)
  deriving DecidableEq, Repr, Inhabited

/-- A namespace with a token that a request cannot carry. -/
structure BadToken where
  /-- The whole namespace, as `Namespace.display` shows it. -/
  path : String
  /-- The first token that is refused. -/
  token : String
  deriving DecidableEq, Repr

/-- The wording of the refusal. -/
def BadToken.message (refusal : BadToken) : String :=
  s!"Invalid namespace token {quote refusal.token} in {quote refusal.path}"

namespace Namespace

/-- The token of the outermost namespace. -/
def rootToken : String := "Main"

/-- Characters with a meaning of their own in a request line or in the
interpreter's names. -/
def reserved : List Char :=
  ['"', '\'', '[', ']', '(', ')', ',', '=', ':', ';', '\\', '$', '.']

/-- A character that may stand in a token. -/
def isTokenChar (c : Char) : Bool := !isBlank c && !isControl c && !reserved.contains c

/-- A text that may be a token. -/
def isToken (token : String) : Bool := token ≠ "" && token.toList.all isTokenChar

/-- A text cut at its dots; a text without dots is one piece. -/
def pieces (name : String) : List String := (name.toList.splitOn '.').map String.ofList

/-- The namespace as the user wrote it. -/
def display : Namespace → String
  | root => rootToken
  | dotted name => name
  | segments names => ".".intercalate names

/-- The pieces of a namespace, checked or not. -/
def candidates : Namespace → List String
  | root => [rootToken]
  | dotted name => pieces name
  | segments [] => [rootToken]
  | segments names => names.flatMap pieces

/-- The tokens that a request carries, unless one of them is refused. -/
def tokens (path : Namespace) : Except BadToken (List String) :=
  match path.candidates.find? (!isToken ·) with
  | some token => .error ⟨path.display, token⟩
  | none => .ok path.candidates

end Namespace

end ReplLink
