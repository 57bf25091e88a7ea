/-!
# Blank and control characters

The Unicode property White_Space, which decides what is trimmed and what may
not stand in a namespace token, and the general category Cc.
-/

namespace ReplLink.Text

/-- The characters with the Unicode property White_Space. -/
def isBlank (c : Char) : Bool :=
  let n := c.toNat
  (0x09 ≤ n && n ≤ 0x0D) || n == 0x20 || n == 0x85 || n == 0xA0 || n == 0x1680
    || (0x2000 ≤ n && n ≤ 0x200A) || n == 0x2028 || n == 0x2029 || n == 0x202F
    || n == 0x205F || n == 0x3000

/-- Control characters, the general category Cc. -/
def isControl (c : Char) : Bool :=
  c.toNat < 0x20 || (0x7F ≤ c.toNat && c.toNat ≤ 0x9F)

/-- A text without the blank characters at its start. -/
def trimStart (text : List Char) : List Char := text.dropWhile isBlank

/-- A text without the blank characters at its end. -/
def trimEnd (text : List Char) : List Char := (text.reverse.dropWhile isBlank).reverse

/-- A text without the blank characters at its two ends. -/
def trim (text : List Char) : List Char := trimEnd (trimStart text)

/-- The words of a text whose first word so far is given in reverse. -/
def wordsFrom (word : List Char) : List Char → List (List Char)
  | [] => if word.isEmpty then [] else [word.reverse]
  | c :: rest =>
    if !isBlank c then wordsFrom (c :: word) rest
    else if word.isEmpty then wordsFrom [] rest
    else word.reverse :: wordsFrom [] rest

/-- The longest pieces of a text without blank characters. -/
def words (text : List Char) : List (List Char) := wordsFrom [] text

/-- What follows a given beginning, if the text starts with it. -/
def after? (beginning text : List Char) : Option (List Char) :=
  if beginning.isPrefixOf text then some (text.drop beginning.length) else none

@[simp] theorem after?_append (beginning rest : List Char) :
    after? beginning (beginning ++ rest) = some rest := by
  rw [after?, if_pos (List.isPrefixOf_iff_prefix.mpr (List.prefix_append _ _)), List.drop_left]

/-- The text with every occurrence of `old`, found from left to right, replaced by `new`. -/
def replaceAll (old new : List Char) : List Char → List Char
  | [] => []
  | c :: rest =>
    if old ≠ [] ∧ old.isPrefixOf (c :: rest) = true then
      new ++ replaceAll old new ((c :: rest).drop old.length)
    else c :: replaceAll old new rest
termination_by text => text.length
decreasing_by
  · simp_wf
    have : 0 < old.length := List.length_pos_iff.2 (by simp_all)
    omega
  · simp

end ReplLink.Text
