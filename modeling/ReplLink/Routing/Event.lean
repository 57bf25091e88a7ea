import ReplLink.Routing.Job

/-!
# What an editor sees

While requests come and go, the editor's busy indicator starts and stops, its
error viewer shows failures, callbacks report outcomes, and lines are written
to a log. All of it is one sequence of events. Log lines are kept as what they
report; `Notice.text` has their wording.
-/

namespace ReplLink.Routing

/-- How urgent a log line is. -/
inductive Level where
  /-- The normal course of things. -/
  | info
  /-- Something was lost. -/
  | warning
  /-- Something failed that should not. -/
  | error
  deriving DecidableEq, Repr

/-- What a log line reports. -/
inductive Notice where
  /-- Code that belongs to `display` has run. -/
  | finished (display : String)
  /-- Code that belongs to `display` has failed. -/
  | evaluationFailed (display message : String)
  /-- A response came for an id that nothing waits under. -/
  | unknownResponse (id : String)
  /-- A callback failed. -/
  | panicked (id : String) (what : Panic)
  /-- The connection went away under a job. -/
  | ended (id origin : String) (policy : Policy)
  /-- A failure for which there is no viewer. -/
  | failure (origin message : String)
  /-- A stack frame of such a failure. -/
  | frame (text : String)
  /-- A connection is open. -/
  | connected (context address : String)
  /-- The interpreter has closed its side. -/
  | closedByPeer (context : String)
  /-- Reading from the interpreter failed. -/
  | readFailed (context cause : String)
  /-- Bytes were dropped because they are no response. -/
  | dropped (context : String) (count : Nat) (reason : String)
  /-- A request could not be written. -/
  | notSent (context id cause : String)
  /-- A connection was closed under so many requests. -/
  | closed (context address : String) (count : Nat) (policy : Policy)
  deriving DecidableEq, Repr

/-- The urgency of a notice. -/
def Notice.level : Notice → Level
  | finished .. | ended .. | connected .. | closedByPeer .. | closed .. => .info
  | evaluationFailed .. | unknownResponse .. | readFailed .. | dropped .. | notSent .. => .warning
  | panicked .. | failure .. | frame .. => .error

/-- The wording of a notice. -/
def Notice.text : Notice → String
  | finished display => s!"{display}: evaluation finished"
  | evaluationFailed display message => s!"{display}: evaluation failed: {message}"
  | unknownResponse id => s!"Dropping response for unknown request {id}"
  | panicked id what => s!"Callback for request {id} panicked: {what.report}"
  | ended id origin policy => s!"Request {id} from {origin} {policy.participle}"
  | failure origin message => s!"{origin}: {message}"
  | frame text => s!"  in {text}"
  | connected context address => s!"{context}: connected to {address}"
  | closedByPeer context => s!"{context}: interpreter closed the connection"
  | readFailed context cause => s!"{context}: read failed: {cause}"
  | dropped context count reason => s!"{context}: dropped {count} bytes: {reason}"
  | notSent context id cause => s!"{context}: request {id} not sent: {cause}"
  | closed context address count policy =>
    s!"{context}: session to {address} closed, {count} request(s) {policy.participle}"

/-- Why a router refuses a command. -/
inductive Refusal where
  /-- The id is registered already. -/
  | idTaken (id : String)
  /-- No job waits under the id. -/
  | idUnknown (id : String)
  deriving DecidableEq, Repr

/-- The wording of a refusal. -/
def Refusal.message : Refusal → String
  | idTaken id => s!"Request id {id} is already outstanding"
  | idUnknown id => s!"Unknown request id {id}"

/-- A router's reply to a command. -/
inductive Reply where
  /-- It is done. -/
  | done
  /-- It is refused. -/
  | refused (why : Refusal)
  /-- So many jobs were ended. -/
  | count (jobs : Nat)
  /-- Yes or no. -/
  | truth (value : Bool)
  /-- So many ids are registered. -/
  | size (ids : Nat)
  /-- The job is as described. -/
  | description (job : Job)
  /-- A summary in words. -/
  | text (summary : String)

/-- What happens in the sight of an editor. -/
inductive Event where
  /-- The busy indicator of a context starts. -/
  | busyStart (origin : String)
  /-- The busy indicator of a context stops. -/
  | busyStop (origin : String)
  /-- The error viewer shows a failure. -/
  | shown (origin : String) (failure : Failure)
  /-- A success callback reports. -/
  | succeeded (label : String) (value : Option Datum)
  /-- A failure callback reports. -/
  | failed (label : String) (failure : Failure)
  /-- A line is written to the log. -/
  | notice (notice : Notice)
  /-- A command that a callback gave has been answered, with these ids registered afterwards. -/
  | nested (reply : Reply) (ids : List String)

/-- Who is told of busy times and failures. -/
inductive FrontEnd where
  /-- An editor with an indicator and a viewer. -/
  | editor
  /-- Nobody: failures are written to the log. -/
  | log
  deriving DecidableEq, Repr, Inhabited

/-- What an error viewer makes of a failure. -/
def FrontEnd.show (frontEnd : FrontEnd) (origin : String) (failure : Failure) : List Event :=
  match frontEnd with
  | editor => [.shown origin failure]
  | log =>
    .notice (.failure origin failure.message) :: failure.stack.map fun text => .notice (.frame text)

/-- The start of a busy time. -/
def FrontEnd.start (frontEnd : FrontEnd) (origin : String) : List Event :=
  match frontEnd with
  | editor => [.busyStart origin]
  | log => []

/-- The end of a busy time. -/
def FrontEnd.stop (frontEnd : FrontEnd) (origin : String) : List Event :=
  match frontEnd with
  | editor => [.busyStop origin]
  | log => []

/-- What a callback does before it fails or gives commands. -/
def Callback.announce (callback : Callback) (job : Job) (outcome : Outcome) : List Event :=
  match callback, outcome with
  | .silent, _ => []
  | .acknowledge, .success _ => [.notice (.finished job.display)]
  | .acknowledge, .failure failure => [.notice (.evaluationFailed job.display failure.message)]
  | _, .success value => [.succeeded job.label value]
  | _, .failure failure => [.failed job.label failure]

end ReplLink.Routing
