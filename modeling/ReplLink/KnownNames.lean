/-!
# Names that the interpreter knows

There are two lists of names, and asking for one is expensive, so each
connection remembers both. A list is asked for again only while there is no
usable answer, and all of them are forgotten when the connection goes away.
-/

namespace ReplLink

/-- The two lists of names. -/
inductive NameList where
  /-- The names of the standard library. -/
  | base
  /-- The names built into the interpreter. -/
  | core
  deriving DecidableEq, Repr, Inhabited

/-- The word for a list. -/
def NameList.word : NameList → String
  | base => "base"
  | core => "core"

/-- The list that a word means. -/
def NameList.ofWord? (word : String) : Option NameList :=
  if word = "base" then some .base else if word = "core" then some .core else none

/-- What one connection has learnt. -/
structure KnownNames where
  /-- The names of the standard library, once known. -/
  base : Option (List String)
  /-- The names built into the interpreter, once known. -/
  core : Option (List String)
  deriving DecidableEq, Repr

namespace KnownNames

/-- Nothing is known. -/
def empty : KnownNames := ⟨none, none⟩

/-- The names of a list, if they are known. -/
def get (known : KnownNames) : NameList → Option (List String)
  | .base => known.base
  | .core => known.core

/-- Remembers the names of a list. -/
def fill (known : KnownNames) (list : NameList) (names : List String) : KnownNames :=
  match list with
  | .base => { known with base := some names }
  | .core => { known with core := some names }

/-- The names of a list, asked for if they are not known. An answer without
names leaves everything as it is. -/
def getOrAsk {error : Type} (known : KnownNames) (list : NameList)
    (answer : Except error (List String)) : Except error (List String) × KnownNames :=
  match known.get list with
  | some names => (.ok names, known)
  | none =>
    match answer with
    | .ok names => (.ok names, known.fill list names)
    | .error why => (.error why, known)

@[simp] theorem get_fill_self (known : KnownNames) (list : NameList) (names : List String) :
    (known.fill list names).get list = some names := by cases list <;> rfl

theorem get_fill_of_ne (known : KnownNames) {list other : NameList} (names : List String)
    (h : other ≠ list) : (known.fill list names).get other = known.get other := by
  cases list <;> cases other <;> first | rfl | exact absurd rfl h

end KnownNames

end ReplLink
