import ReplLink.Files
import ReplLink.Response
import ReplLink.Text.Quoted

/-!
# Jobs: requests in flight

A job is what must happen when a request ends: one of two callbacks, the
deletion of a file, the end of a busy indicator, and word to a caller that
waits. Callbacks are data. Besides telling the editor, a callback may fail, and
it may give commands to the very router that runs it.
-/

namespace ReplLink.Routing

open ReplLink.Text

/-- What becomes of the jobs of a connection that goes away. -/
inductive Policy where
  /-- They end without a callback. -/
  | abandon
  /-- Their failure callbacks run. -/
  | fail
  deriving DecidableEq, Repr, Inhabited

/-- What has become of a job under a policy. -/
def Policy.participle : Policy → String
  | abandon => "abandoned"
  | fail => "failed"

/-- What a failing callback throws. -/
inductive Panic where
  /-- A text. -/
  | message (text : String)
  /-- A value that is no text. -/
  | nameless
  deriving DecidableEq, Repr

/-- How a thrown value is reported. -/
def Panic.report : Panic → String
  | message text => text
  | nameless => "unknown panic"

/-- A request in flight, over any type of callbacks. -/
structure JobOf (callback : Type) where
  /-- The name under which its callbacks tell the editor. -/
  label : String
  /-- The editor's context that the request comes from. -/
  origin : String
  /-- The context that its output belongs to. -/
  display : String
  /-- Runs when the code has run. -/
  onSuccess : callback
  /-- Runs when the code has failed. -/
  onFailure : callback
  /-- A failure is also shown in the error viewer. -/
  showsFailures : Bool
  /-- The files that are attached to the request, each in place of the one
  before it. -/
  attached : List Attachment
  /-- The code travels in a file, however short it is. -/
  viaFile : Bool
  /-- The number of the caller who waits for the outcome. -/
  waiter : Option Nat
  deriving Inhabited

mutual

/-- What a callback does with an outcome. -/
inductive Callback where
  /-- Nothing. -/
  | silent
  /-- It tells the editor. -/
  | report
  /-- It writes a line to the log. -/
  | acknowledge
  /-- It tells the editor and fails. -/
  | panic (what : Panic)
  /-- It tells the editor and then gives commands to its own router. -/
  | run (program : List Command)

/-- A command to a router. -/
inductive Command where
  /-- Registers a job under an id. Its files are put in place first. -/
  | enter (id : String) (job : JobOf Callback)
  /-- Routes a response to its job. -/
  | route (response : Response)
  /-- Ends all jobs that wait for a response. -/
  | endAll (policy : Policy)
  /-- Asks whether an id is registered. -/
  | contains (id : String)
  /-- Asks for the number of registered ids. -/
  | size
  /-- Describes a job without registering it. Its files are put in place. -/
  | describe (job : JobOf Callback)
  /-- Asks for a summary of the router. -/
  | summary
  /-- Deletes a file behind the router's back. -/
  | deleteFile (path : String)

end

/-- A request in flight. -/
abbrev Job := JobOf Callback

instance : Inhabited Callback := ⟨.silent⟩

instance : Inhabited Command := ⟨.size⟩

/-- A job with the callbacks that only write to the log; its failures are
shown. -/
def JobOf.plain (label origin display : String) : Job where
  label := label
  origin := origin
  display := display
  onSuccess := .acknowledge
  onFailure := .acknowledge
  showsFailures := true
  attached := []
  viaFile := false
  waiter := none

/-- The file that is deleted when the request ends: the one that was attached
last. -/
def JobOf.attachment {callback : Type} (job : JobOf callback) : Option Attachment :=
  job.attached.getLast?

/-- A job in words, for a log or a debugger. -/
def JobOf.summary {callback : Type} (job : JobOf callback) : String :=
  let path :=
    match job.attachment with
    | some attachment => s!"Some({quote attachment.path})"
    | none => "None"
  "TrackedRequest \x7b " ++ s!"origin: ContextId({quote job.origin}), "
    ++ s!"display: ContextId({quote job.display}), show_errors: {job.showsFailures}, "
    ++ s!"tmpfile: {path}, waiting: {job.waiter.isSome}, .. " ++ "\x7d"

mutual

/-- The number of commands that a callback can give, those of its jobs
included. -/
def Callback.weight : Callback → Nat
  | .run program => 1 + Command.weights program
  | _ => 0

/-- The weight of a command: its own and that of the job it registers. -/
def Command.weight : Command → Nat
  | .enter _ job => 1 + JobOf.weight job
  | _ => 1

/-- The weight of a program. -/
def Command.weights : List Command → Nat
  | [] => 0
  | command :: rest => 1 + command.weight + Command.weights rest

/-- The weight of a job: that of its callbacks, one for choosing between them
and one for ending the job. -/
def JobOf.weight : JobOf Callback → Nat
  | ⟨_, _, _, onSuccess, onFailure, _, _, _, _⟩ => 2 + onSuccess.weight + onFailure.weight

end

/-- A job with the callback that an outcome calls for. -/
def JobOf.callback {callback : Type} (job : JobOf callback) : Outcome → callback
  | .success _ => job.onSuccess
  | .failure _ => job.onFailure

/-- Any callback of a job weighs less than the job, by two at least. -/
theorem weight_callback_lt (job : Job) (outcome : Outcome) :
    (job.callback outcome).weight + 1 < job.weight := by
  cases job
  cases outcome <;> simp only [JobOf.callback, JobOf.weight] <;> omega

end ReplLink.Routing
