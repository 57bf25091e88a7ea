import ReplLink.Toml.Scalar

/-!
# TOML documents

A document is a sequence of lines: comments, entries and headers. An entry
belongs to the table of the last header. `Document.read` gives the whole as one
table, or nothing if a line is malformed or says what another has said before.
-/

namespace ReplLink.Toml

namespace Scan

/-- An array, given a scanner of its items. A comma may follow the last one. -/
def array (item : Scan Node) : Scan Node := do
  char '['
  let items ← rounds (fun items => do
    gap
    match ← peek with
    | some ']' => char ']'; pure (.inr items.reverse)
    | _ =>
      let value ← item
      gap
      match ← next with
      | ',' => pure (.inl (value :: items))
      | ']' => pure (.inr (value :: items).reverse)
      | _ => failure) []
  pure (.array items)

/-- A table in braces, given a scanner of its values. All of it but its values
is on one line, and no comma follows the last entry. -/
def bracedTable (item : Scan Node) : Scan Node := do
  char '\x7b'
  spaces
  match ← optional (char '\x7d') with
  | some () => pure (.table .braces [])
  | none =>
    rounds (fun table => do
      let path ← key
      char '='
      spaces
      let value ← item
      spaces
      let some last := path.getLast? | failure
      let some table := table.addAt true path.dropLast last value | failure
      match ← next with
      | ',' => pure (.inl table)
      | '\x7d' => pure (.inr table)
      | _ => failure) (.table .braces [])

/-- A value, with so many levels of brackets and braces at most. -/
def value : Nat → Scan Node
  | 0 => scalar
  | levels + 1 => do
    match ← peek with
    | some '[' => array (value levels)
    | some '\x7b' => bracedTable (value levels)
    | _ => scalar

end Scan

/-- A document as far as it is read. -/
structure Document where
  /-- The table of the whole document. -/
  root : Node
  /-- The path of the last header. -/
  current : List String

namespace Document

open Scan

/-- An entry, which ends its line. -/
def entry (document : Document) : Scan Document := do
  let path ← key
  char '='
  spaces
  let value ← value (nestingLimit - 1)
  lineEnd
  let some last := path.getLast? | failure
  let some root :=
    document.root.update false false (·.addAt false path.dropLast last value) document.current
    | failure
  pure { document with root }

/-- A header, which ends its line. -/
def header (document : Document) : Scan Document := do
  char '['
  let repeated ← optional (char '[')
  let path ← key
  char ']'
  if repeated.isSome then char ']'
  lineEnd
  let some last := path.getLast? | failure
  let start := if repeated.isSome then Node.openRepeated last else Node.openTable last
  let some root := document.root.update false false start path.dropLast | failure
  pure ⟨root, path⟩

/-- All lines. A byte order mark may stand in front. -/
def lines : Scan Document := do
  let _ ← optional (char '\uFEFF')
  spaces
  rounds (fun document => do
    match ← peek with
    | none => pure (.inr document)
    | some '#' => lineEnd; spaces; pure (.inl document)
    | some '\n' | some '\r' => lineBreak; spaces; pure (.inl document)
    | some '[' =>
      let document ← document.header
      spaces
      pure (.inl document)
    | some _ =>
      let document ← document.entry
      spaces
      pure (.inl document)) ⟨.table .header [], []⟩

/-- The table that a text writes. -/
def read (text : String) : Option Node :=
  (lines.run text.toList).map (·.1.root)

end Document

end ReplLink.Toml
