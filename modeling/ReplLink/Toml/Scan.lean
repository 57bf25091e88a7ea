/-!
# Scanning a text from its front

The pieces of which the TOML reader is made: a scanner takes characters off
the front of a text or fails, and an alternative starts again where the first
scanner started. Repetition ends because no round is allowed to take nothing.
-/

namespace ReplLink.Toml

/-- Takes characters off the front of a text, or fails. -/
abbrev Scan := StateT (List Char) Option

namespace Scan

/-- The next character. -/
def next : Scan Char := do
  match ← get with
  | c :: rest => set rest; pure c
  | [] => failure

/-- The next character, left where it is. -/
def peek : Scan (Option Char) := do
  return (← get).head?

/-- A character of a class. -/
def one (allowed : Char → Bool) : Scan Char := do
  let c ← next
  if allowed c then pure c else failure

/-- A given character. -/
def char (c : Char) : Scan Unit := do
  let _ ← one (· == c)

/-- A given text. -/
def word (text : String) : Scan Unit := do
  let input ← get
  if text.toList.isPrefixOf input then set (input.drop text.length) else failure

/-- All characters of a class up to the first other one. -/
def many (allowed : Char → Bool) : Scan (List Char) := do
  let input ← get
  set (input.dropWhile allowed)
  pure (input.takeWhile allowed)

/-- A given number of characters of a class. -/
def exactly (count : Nat) (allowed : Char → Bool) : Scan (List Char) := do
  let input ← get
  let taken := input.take count
  if taken.length = count ∧ taken.all allowed then
    set (input.drop count)
    pure taken
  else failure

/-- Nothing is left. -/
def atEnd : Scan Unit := do
  if (← get).isEmpty then pure () else failure

/-- Goes round with a state until a round ends with a result, as often as the
list is long at most. -/
def roundsOf {σ α : Type} (round : σ → Scan (σ ⊕ α)) : List Char → σ → Scan α
  | [], _ => failure
  | _ :: others, state => do
    match ← round state with
    | .inl state => roundsOf round others state
    | .inr result => pure result

/-- Goes round until a round ends with a result. Every other round takes a
character, so there are no more rounds than characters and one. -/
def rounds {σ α : Type} (round : σ → Scan (σ ⊕ α)) (start : σ) : Scan α := do
  roundsOf round (' ' :: (← get)) start

end Scan

end ReplLink.Toml
