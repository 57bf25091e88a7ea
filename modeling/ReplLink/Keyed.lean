/-!
# Values filed under names

A finite map from names to values, kept as a list in the order of the names,
so that going through it needs no sorting and two maps that were filled in a
different order are the same.
-/

namespace ReplLink

/-- Values filed under names, in the order of the names. -/
structure Keyed (α : Type) where
  /-- Each name with its value. -/
  entries : List (String × α)
  deriving Repr, Inhabited

namespace Keyed

variable {α : Type}

/-- Nothing is filed. -/
def empty : Keyed α := ⟨[]⟩

/-- The first value filed under a name in a list. -/
def lookIn (key : String) : List (String × α) → Option α
  | [] => none
  | (other, value) :: rest => if key = other then some value else lookIn key rest

/-- The value filed under a name. -/
def get? (map : Keyed α) (key : String) : Option α := lookIn key map.entries

/-- Something is filed under a name. -/
def contains (map : Keyed α) (key : String) : Bool := (map.get? key).isSome

/-- Takes away what is filed under a name. -/
def erase (map : Keyed α) (key : String) : Keyed α := ⟨map.entries.filter (·.1 ≠ key)⟩

/-- Files a value in a list, in front of the names that come later. -/
def insertIn (key : String) (value : α) : List (String × α) → List (String × α)
  | [] => [(key, value)]
  | head :: rest =>
    if key < head.1 then (key, value) :: head :: rest else head :: insertIn key value rest

/-- Files a value, in place of the one filed under that name before. -/
def put (map : Keyed α) (key : String) (value : α) : Keyed α :=
  ⟨insertIn key value (map.erase key).entries⟩

/-- The names in use, in order. -/
def keys (map : Keyed α) : List String := map.entries.map (·.1)

/-- How many values are filed. -/
def size (map : Keyed α) : Nat := map.entries.length

@[simp] theorem get?_erase_self (map : Keyed α) (key : String) :
    (map.erase key).get? key = none := by
  suffices h : ∀ list : List (String × α),
      lookIn key (list.filter (·.1 ≠ key)) = none from h _
  intro list
  induction list with
  | nil => rfl
  | cons head rest ih =>
    by_cases h : head.1 = key
    · simp_all
    · rw [List.filter_cons_of_pos (by simpa using h)]
      simp only [lookIn, if_neg (Ne.symm h), ih]

theorem get?_erase_of_ne (map : Keyed α) {key other : String} (h : other ≠ key) :
    (map.erase key).get? other = map.get? other := by
  suffices all : ∀ list : List (String × α),
      lookIn other (list.filter (·.1 ≠ key)) = lookIn other list from all _
  intro list
  induction list with
  | nil => rfl
  | cons head rest ih =>
    by_cases same : head.1 = key
    · rw [List.filter_cons_of_neg (by simpa using same), ih]
      simp [lookIn, same, h]
    · rw [List.filter_cons_of_pos (by simpa using same)]
      simp only [lookIn, ih]

theorem lookIn_insertIn_of_ne {key other : String} (value : α) (h : other ≠ key)
    (list : List (String × α)) :
    lookIn other (insertIn key value list) = lookIn other list := by
  induction list with
  | nil => simp [insertIn, lookIn, h]
  | cons head rest ih =>
    simp only [insertIn]
    split
    · simp [lookIn, h]
    · simp [lookIn, ih]

theorem lookIn_insertIn_self {key : String} (value : α) {list : List (String × α)}
    (absent : lookIn key list = none) : lookIn key (insertIn key value list) = some value := by
  induction list with
  | nil => simp [insertIn, lookIn]
  | cons head rest ih =>
    simp only [lookIn] at absent
    split at absent
    · simp at absent
    · next other =>
      simp only [insertIn]
      split
      · simp [lookIn]
      · simp only [lookIn, if_neg other, ih absent]

@[simp] theorem get?_put_self (map : Keyed α) (key : String) (value : α) :
    (map.put key value).get? key = some value :=
  lookIn_insertIn_self value (get?_erase_self map key)

theorem get?_put_of_ne (map : Keyed α) {key other : String} (value : α) (h : other ≠ key) :
    (map.put key value).get? other = map.get? other :=
  (lookIn_insertIn_of_ne value h _).trans (get?_erase_of_ne map h)

end Keyed

end ReplLink
