import ReplLink.CommandLine.Line

/-!
# The codes of an input

Which codes an input asks to evaluate can be read off its lines: up to the first one that
is `:quit`, those that are neither blank nor commands, without the blanks around them.
-/

namespace ReplLink.CommandLine

open ReplLink.Text

/-- The text of a line, if it has one. -/
def Line.text? : Line → Option String
  | .text line => some line
  | _ => none

/-- The trimmed lines of an input in front of the first one that asks for the end. -/
def linesBeforeQuit (lines : List Line) : List (List Char) :=
  ((lines.filterMap Line.text?).map fun line => trim line.toList).takeWhile (· ≠ ":quit".toList)

/-- The codes of an input: its trimmed lines before the end that are neither blank nor start
with a colon. -/
def codesOf (lines : List Line) : List String :=
  ((linesBeforeQuit lines).filter fun line => line ≠ [] ∧ line.head? ≠ some ':').map String.ofList

theorem ofCommand_cases (command : List Char) :
    (∃ list, Demand.ofCommand command = .names list) ∨
      (∃ word, Demand.ofCommand command = .unknownList word) ∨
      ∃ line, Demand.ofCommand command = .unknownCommand line := by
  unfold Demand.ofCommand
  split
  · split
    · split
      · exact .inl ⟨_, rfl⟩
      · exact .inr (.inl ⟨_, rfl⟩)
    · exact .inr (.inr ⟨_, rfl⟩)
  · exact .inr (.inr ⟨_, rfl⟩)

/-- The codes of an input line by line: a line of code has its own, and behind `:quit` there
are none. -/
theorem codesOf_text (line : String) (rest : List Line) :
    codesOf (.text line :: rest)
      = match Demand.ofLine line with
        | .quit => []
        | .evaluate code => code :: codesOf rest
        | _ => codesOf rest := by
  have htrimmed : linesBeforeQuit (.text line :: rest)
      = if trim line.toList = ":quit".toList then []
        else trim line.toList :: linesBeforeQuit rest := by
    have hfirst : (Line.text line :: rest).filterMap Line.text?
        = line :: rest.filterMap Line.text? := rfl
    unfold linesBeforeQuit
    rw [hfirst, List.map_cons, List.takeWhile_cons]
    by_cases hq : trim line.toList = ":quit".toList
    · rw [if_pos hq, if_neg (by simp [hq])]
    · rw [if_neg hq, if_pos (by simpa using hq)]
  unfold codesOf Demand.ofLine
  rw [htrimmed]
  dsimp only
  by_cases hblank : trim line.toList = []
  · rw [if_pos hblank, hblank, if_neg (by decide)]
    rfl
  rw [if_neg hblank]
  by_cases hquit : trim line.toList = ":quit".toList
  · rw [if_pos hquit, if_pos hquit]
    rfl
  rw [if_neg hquit, if_neg hquit]
  by_cases hcolon : (trim line.toList).head? = some ':'
  · rw [if_pos hcolon, List.filter_cons_of_neg (by simp [hcolon])]
    rcases ofCommand_cases (trim line.toList) with ⟨list, hc⟩ | ⟨word, hc⟩ | ⟨text, hc⟩ <;> rw [hc]
  · rw [if_neg hcolon, List.filter_cons_of_pos (by simp [hcolon, hblank]), List.map_cons]

namespace Line

end Line

end ReplLink.CommandLine
