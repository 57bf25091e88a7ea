import ReplLink.KnownNames
import ReplLink.Text.Blank
import ReplLink.Text.Utf8

/-!
# Lines of the standard input

The standard input is cut at line feeds, and a carriage return in front of one
belongs to it. Each line is read on its own, so a line that is no text spoils
only itself. A line is trimmed and then is code, or a command if it starts with
a colon.
-/

namespace ReplLink.CommandLine

open ReplLink.Text

/-- A line of the standard input, or its end. -/
inductive Line where
  /-- A line of text. -/
  | text (line : String)
  /-- A line that is no text. -/
  | unreadable (fault : Utf8.Fault)
  /-- There are no more lines. -/
  | finish
  deriving DecidableEq, Repr

namespace Line

/-- A line without the carriage return at its end. -/
def withoutReturn (line : Bytes) : Bytes :=
  if line.getLast? = some 0x0D then line.dropLast else line

/-- The line that some bytes make. -/
def ofBytes (bytes : Bytes) : Line :=
  match Utf8.decodeStrict bytes with
  | .ok line => .text (String.ofList line)
  | .error fault => .unreadable fault

/-- The lines of an input of which the current line so far is given in
reverse. What follows the last line feed is a line if there is anything. -/
def splitFrom (line : Bytes) : Bytes → List Line
  | [] => if line.isEmpty then [.finish] else [ofBytes line.reverse, .finish]
  | b :: rest =>
    if b = Ascii.lineFeed then ofBytes (withoutReturn line.reverse) :: splitFrom [] rest
    else splitFrom (b :: line) rest

/-- The lines of an input, and its end. -/
def split (input : Bytes) : List Line := splitFrom [] input

end Line

/-- What a line asks for. -/
inductive Demand where
  /-- Nothing: the line is blank. -/
  | nothing
  /-- The end of the program. -/
  | quit
  /-- The number of names in a list. -/
  | names (list : NameList)
  /-- Names of a list that does not exist. -/
  | unknownList (word : String)
  /-- A command that does not exist. -/
  | unknownCommand (line : String)
  /-- Evaluation of code. -/
  | evaluate (code : String)
  deriving DecidableEq, Repr

/-- The meaning of a command, which is a trimmed line with a colon in front.
Words behind the ones that count are passed over. -/
def Demand.ofCommand (command : List Char) : Demand :=
  match (words command).map String.ofList with
  | first :: list :: _ =>
    if first = ":names" then
      match NameList.ofWord? list with
      | some list => .names list
      | none => .unknownList list
    else .unknownCommand (String.ofList command)
  | _ => .unknownCommand (String.ofList command)

/-- What a line asks for. -/
def Demand.ofLine (line : String) : Demand :=
  let trimmed := trim line.toList
  if trimmed = [] then .nothing
  else if trimmed = ":quit".toList then .quit
  else if trimmed.head? = some ':' then .ofCommand trimmed
  else .evaluate (String.ofList trimmed)

end ReplLink.CommandLine
