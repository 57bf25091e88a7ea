import ReplLink.Datum.Json
import ReplLink.Response

/-!
# What the command line prints

Replies go to the standard output, one line each if they are printed as JSON.
Everything else goes to the standard error. A report that ends the program
tells what went wrong and, indented below, what lies behind it.
-/

namespace ReplLink.CommandLine

/-- Something printed, with its line break. -/
inductive Output where
  /-- On the standard output. -/
  | out (text : String)
  /-- On the standard error. -/
  | err (text : String)
  deriving DecidableEq, Repr

/-- A text printed with a line break on the standard output. -/
def Output.line (text : String) : Output := .out (text ++ "\n")

/-- A text printed with a line break on the standard error. -/
def Output.note (text : String) : Output := .err (text ++ "\n")

/-- The JSON array of some texts. -/
def jsonTexts (texts : List String) : List Char :=
  '[' :: (List.intercalate [','] (texts.map fun text => Datum.jsonString text.toList) ++ [']'])

/-- A failure as a JSON object. -/
def jsonFailure (failure : Failure) : String :=
  "\x7b\"error\":" ++ String.ofList (Datum.jsonString failure.message.toList)
    ++ ",\"stack\":" ++ String.ofList (jsonTexts failure.stack) ++ "\x7d"

/-- What is printed for an outcome, or for none. -/
def replyText (json : Bool) : Option Outcome → String
  | some (.success (some value)) =>
    if json then String.ofList value.json else value.display
  | some (.success none) => if json then "null" else "nothing"
  | some (.failure failure) =>
    if json then jsonFailure failure else "ERROR: " ++ failure.message
  | none => if json then "\x7b\"error\":\"no value\"\x7d" else "(no value yet)"

/-- What went wrong, and from the outside in what lies behind it. -/
structure Report where
  /-- What went wrong. -/
  message : String
  /-- What lies behind it. -/
  causes : List String := []
  deriving DecidableEq, Repr

/-- The causes, one on a line, numbered if there are several. -/
def Report.causeLines : List String → List String
  | [cause] => ["    " ++ cause]
  | causes => causes.zipIdx.map fun (cause, index) => s!"    {index}: {cause}"

/-- The report in words. -/
def Report.text (report : Report) : String :=
  let message := "Error: " ++ report.message
  if report.causes.isEmpty then message
  else "\n".intercalate (message :: "" :: "Caused by:" :: causeLines report.causes)

end ReplLink.CommandLine
