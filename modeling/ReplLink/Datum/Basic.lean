import ReplLink.Decimal.Binary64

/-!
# Data of the interpreter

The interpreter answers with lists, strings, numbers and symbols. A symbol is
bare text: keywords such as `:nothing` and the word `nil` are symbols, and
`nil` is also a way to write the empty list.
-/

namespace ReplLink

/-- A datum that the interpreter sent or may be sent. -/
inductive Datum where
  /-- An integer of sixty-four bits. -/
  | int (value : Int64)
  /-- A double-precision number, bit for bit. -/
  | float (value : Decimal.Binary64)
  /-- A string. -/
  | str (text : String)
  /-- A bare word. -/
  | symbol (name : String)
  /-- A list. -/
  | list (items : List Datum)
  deriving BEq, Repr, Inhabited

namespace Datum

/-- The text of a string. -/
def string? : Datum → Option String
  | str text => some text
  | _ => none

/-- The name of a symbol. -/
def symbol? : Datum → Option String
  | symbol name => some name
  | _ => none

/-- The empty list, in either of its two forms. -/
def isNil : Datum → Bool
  | symbol name => name == "nil"
  | list items => items.isEmpty
  | _ => false

/-- The elements of a list; `nil` has none. -/
def elements? : Datum → Option (List Datum)
  | list items => some items
  | symbol name => if name = "nil" then some [] else none
  | _ => none

/-- The text of a string or of a symbol. -/
def name? : Datum → Option String
  | str text => some text
  | symbol name => some name
  | _ => none

/-- The texts of a list that holds only strings and symbols. -/
def names? (datum : Datum) : Option (List String) :=
  datum.elements?.bind fun items => items.mapM name?

end Datum

end ReplLink
