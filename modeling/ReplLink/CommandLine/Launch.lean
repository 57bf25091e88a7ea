import ReplLink.CommandLine.Conversation

/-!
# From arguments to a conversation

First the arguments are understood, then the settings are loaded and changed as
the arguments say, then the interpreter is called. Each of these can end the
program before a line of its input is read.
-/

namespace ReplLink.CommandLine

open ReplLink.Text ReplLink.Routing

/-- An end before any conversation. -/
structure Ending where
  /-- What is printed. -/
  output : Output
  /-- The exit code. -/
  exit : Nat
  deriving DecidableEq, Repr

/-- The end with a report. -/
def Ending.ofReport (report : Report) : Ending := ⟨.note report.text, 1⟩

/-- What arguments and settings come to. -/
structure Plan where
  /-- The settings of the session. -/
  settings : Settings
  /-- Replies are printed as JSON. -/
  json : Bool
  deriving DecidableEq, Repr

/-- Settings with the host and the port that the arguments give. -/
def Arguments.adjust (arguments : Arguments) (settings : Settings) : Settings :=
  { settings with
    host := arguments.host.getD settings.host
    port := arguments.port.getD settings.port }

/-- The settings that are in force, given what lies at each path and the
settings file in the standard place. -/
def plan (arguments : List String) (contentAt : String → Option Bytes)
    (standard : Settings.Source) : Except Ending Plan :=
  match Arguments.parse arguments with
  | .error why => .error (.ofReport ⟨why.message, why.causes⟩)
  | .ok arguments =>
    if arguments.help then .error ⟨.line usage, 0⟩
    else
      let asked := arguments.settings.map fun path => ⟨path, contentAt path⟩
      match Settings.inForce asked standard with
      | .error why => .error (.ofReport ⟨why.message, why.causes⟩)
      | .ok settings => .ok ⟨arguments.adjust settings, arguments.json⟩

/-- What lies behind an error of a session. -/
def causesOf : SessionError → List String
  | .unreachable _ _ cause => [cause]
  | _ => []

/-- The context of the command line's session. -/
def context : String := "stdin"

/-- Calls the interpreter. -/
def Plan.launch (plan : Plan) (listens : String → Bool) (spillDirectory : String)
    (draw : Nat → Nat) : Except Ending Conversation :=
  match Session.connect listens context plan.settings .log spillDirectory draw with
  | .ok session => .ok (.opened plan.json session)
  | .error why =>
    .error (.ofReport ⟨"Failed to connect to interpreter", why.message :: causesOf why⟩)

end ReplLink.CommandLine
