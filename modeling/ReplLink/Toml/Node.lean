/-!
# The tree of a TOML document

Keys lead to values and to tables, and tables are written in three ways: under
a header, by dotted keys, and in braces. A table may be added to only in the
way it was started, which is why it remembers how it came about.
-/

namespace ReplLink.Toml

/-- How a table came about. -/
structure TableKind where
  /-- It is written in braces, or is part of one that is. -/
  inBraces : Bool
  /-- It is only named on the way to another table so far. -/
  implicit : Bool
  /-- It was started by a dotted key. -/
  dotted : Bool
  deriving DecidableEq, Repr

namespace TableKind

/-- A table with a header of its own. -/
def header : TableKind := ⟨false, false, false⟩

/-- A table in braces. -/
def braces : TableKind := ⟨true, false, false⟩

end TableKind

/-- A value or a table of a document. -/
inductive Node where
  /-- A string. -/
  | text (value : String)
  /-- An integer. -/
  | integer (value : Int)
  /-- A number with a point or an exponent, or one of the special words. -/
  | decimal
  /-- A truth value. -/
  | truth (value : Bool)
  /-- A date, a time or both. -/
  | moment
  /-- An array in square brackets. -/
  | array (items : List Node)
  /-- A table. -/
  | table (kind : TableKind) (entries : List (String × Node))
  /-- The tables under one repeated header, the last one first. -/
  | tables (newestFirst : List Node)
  deriving Repr, Inhabited

namespace Node

/-- The entries of a table. -/
def entries : Node → List (String × Node)
  | table _ entries => entries
  | _ => []

/-- The node under a key of a table. -/
def get? (node : Node) (key : String) : Option Node := node.entries.lookup key

/-- Entries with another node under a key that is in use. -/
def replaceIn (key : String) (node : Node) (entries : List (String × Node)) :
    List (String × Node) :=
  entries.map fun (other, old) => if other = key then (other, node) else (other, old)

/-- Changes the table at the end of a path of keys. Tables on the way that do
not exist come about as told, and of tables under a repeated header the last
one is meant. There is no way through a value, nor from one kind of table into
another. A dotted key may not enter a table with a header of its own. -/
def update (inBraces dotted : Bool) (change : Node → Option Node) :
    List String → Node → Option Node
  | [], node => change node
  | key :: path, table kind entries =>
    match entries.lookup key with
    | none => do
      let child ← update inBraces dotted change path (table ⟨inBraces, true, dotted⟩ [])
      some (table kind (entries ++ [(key, child)]))
    | some (table childKind childEntries) =>
      if childKind.inBraces ≠ inBraces ∨ (dotted ∧ !childKind.implicit) then none
      else do
        let child ← update inBraces dotted change path (table childKind childEntries)
        some (table kind (replaceIn key child entries))
    | some (tables (newest :: older)) => do
      let newest ← update inBraces dotted change path newest
      some (table kind (replaceIn key (tables (newest :: older)) entries))
    | some _ => none
  | _ :: _, _ => none

/-- Adds an entry to a table that a key, dotted or not, has led to. -/
def addEntry (viaDots : Bool) (key : String) (value : Node) : Node → Option Node
  | table kind entries =>
    if kind.dotted ≠ viaDots ∨ (entries.lookup key).isSome then none
    else some (table kind (entries ++ [(key, value)]))
  | _ => none

/-- Adds a value under a key, dotted or not, of a table. -/
def addAt (node : Node) (inBraces : Bool) (path : List String) (key : String) (value : Node) :
    Option Node :=
  node.update inBraces true (addEntry (!path.isEmpty) key value) path

/-- Starts the table of a header. Only a table that was named on the way to
another one may exist already. -/
def openTable (key : String) : Node → Option Node
  | table kind entries =>
    match entries.lookup key with
    | none => some (table kind (entries ++ [(key, table .header [])]))
    | some (table childKind childEntries) =>
      if childKind.implicit ∧ !childKind.dotted ∧ !childKind.inBraces then
        some (table kind (replaceIn key (table .header childEntries) entries))
      else none
    | some _ => none
  | _ => none

/-- Starts one more table of a repeated header. -/
def openRepeated (key : String) : Node → Option Node
  | table kind entries =>
    match entries.lookup key with
    | none => some (table kind (entries ++ [(key, tables [table .header []])]))
    | some (tables older) =>
      some (table kind (replaceIn key (tables (table .header [] :: older)) entries))
    | some _ => none
  | _ => none

end Node

end ReplLink.Toml
