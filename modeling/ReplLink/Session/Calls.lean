import ReplLink.Session.Basic

/-!
# Callers who wait

A caller may wait for the outcome of a request. Waiting changes nothing for the
request: the caller is told when the job ends, and looks for that word when its
time is up. If there is none, or the word is that there will be no outcome, the
call has no value, and a response that comes later still runs the callbacks.

The names of a list are asked for by one caller at a time, whose query is in
flight. The others stand in line, and so does who closes the session, for both
lists are emptied before the jobs are ended. A list whose names are known
serves the whole line at once.
-/

namespace ReplLink.Session

open ReplLink.Routing

/-- Sends code and notes that a caller waits for the outcome. The number is
the caller's. -/
def call (session : Session) (path : Namespace) (code : String) (job : Job) :
    Session × Except SessionError (Sent × Nat) :=
  let waiter := session.nextTicket
  match session.send path code { job with waiter := some waiter } with
  | (session, .ok sent) => ({ session with nextTicket := waiter + 1 }, .ok (sent, waiter))
  | (session, .error error) => (session, .error error)

/-- The outcome that a caller has when it stops waiting, if it has one. -/
def replyTo (session : Session) (waiter : Nat) : Option Outcome :=
  (session.router.wordFor waiter).join

/-- The job of code that the session's own context evaluates. -/
def evaluation (session : Session) : Job := .plain session.context session.context session.context

/-- Sends code of the session's own context and notes that a caller waits. -/
def eval (session : Session) (path : Namespace) (code : String) :
    Session × Except SessionError (Sent × Nat) :=
  session.call path code session.evaluation

/-- The job of a query for names. Nobody is told of its outcome. -/
def inquiry (session : Session) : Job :=
  { session.evaluation with onSuccess := .silent, onFailure := .silent, showsFailures := false }

/-- The names that a query brings. -/
def namesOf (list : NameList) (reply : Option Outcome) : Except SessionError (List String) :=
  match reply with
  | some (.success (some value)) =>
    match value.names? with
    | some names => .ok names
    | none => .error (.noNames list .notNames)
  | some (.success none) => .error (.noNames list .nothing)
  | some (.failure failure) => .error (.noNames list (.failed failure.message))
  | none => .error (.noNames list .noReply)

/-- Those who want a list. -/
def queueOf (session : Session) : NameList → Queue
  | .base => session.baseQueue
  | .core => session.coreQueue

/-- Changes who wants a list. -/
def setQueue (session : Session) (list : NameList) (queue : Queue) : Session :=
  match list with
  | .base => { session with baseQueue := queue }
  | .core => { session with coreQueue := queue }

/-- Gives a caller what it has been waiting for. -/
def settle (session : Session) (ticket : Nat) (settled : Settled) : Session :=
  { session with settled := (ticket, settled) :: session.settled }

/-- Lets who closes the session have a list. The list is emptied, and then
comes the next one or, behind the last one, the end of the jobs. -/
def vacate (session : Session) (list : NameList) (ticket : Nat) (wasOpen : Bool) : Session :=
  match list with
  | .base =>
    { session with
      names := { session.names with base := none },
      coreQueue := { session.coreQueue with
        line := session.coreQueue.line ++ [.close ticket wasOpen] } }
  | .core =>
    let (session, count) :=
      endJobs { session with names := { session.names with core := none } } wasOpen
    session.settle ticket (.closed count)

/-- Serves the line of a free list, one claim after the other, until a query is
in flight. Gives that query and the claims behind it. -/
def serve (list : NameList) : List Claim → Session → Session × Queue
  | [], session => (session, ⟨none, []⟩)
  | .close ticket wasOpen :: rest, session =>
    serve list rest (session.vacate list ticket wasOpen)
  | .names ticket :: rest, session =>
    match session.names.get list with
    | some names => serve list rest (session.settle ticket (.names (.ok names)))
    | none =>
      match session.call .root (session.settings.question list) session.inquiry with
      | (session, .ok (_, waiter)) => (session, ⟨some ⟨ticket, waiter⟩, rest⟩)
      | (session, .error error) =>
        serve list rest (session.settle ticket (.names (.error error)))

/-- Serves the line of a list that nobody has. -/
def serveList (list : NameList) (session : Session) : Session :=
  let line := (session.queueOf list).line
  let (session, queue) := serve list line (session.setQueue list ⟨none, []⟩)
  session.setQueue list ⟨queue.holder, queue.line ++ (session.queueOf list).line⟩

/-- Ends a query with what its caller has when it stops waiting, and serves the
others. -/
def endQuery (session : Session) (list : NameList) (query : Query) : Session :=
  let result := namesOf list (session.replyTo query.waiter)
  let names :=
    match result with
    | .ok names => session.names.fill list names
    | .error _ => session.names
  serveList list ({ session with names }.settle query.ticket (.names result))

/-- Goes on with a list: serves its line if nobody has it, and ends its query
if the outcome is there. -/
def resumeList (list : NameList) (session : Session) : Session :=
  match (session.queueOf list).holder with
  | none => serveList list session
  | some query =>
    if (session.router.wordFor query.waiter).isSome then session.endQuery list query
    else session

/-- Goes on with both lists. -/
def resume (session : Session) : Session := resumeList .core (resumeList .base session)

/-- Puts a claim at the end of a list's line. -/
def stand (session : Session) (list : NameList) (claim : Claim) : Session :=
  let queue := session.queueOf list
  session.setQueue list { queue with line := queue.line ++ [claim] }

/-- A caller asks for the names of a list. The number is the caller's. -/
def askNames (session : Session) (list : NameList) : Session × Nat :=
  let ticket := session.nextTicket
  (resume ({ session with nextTicket := ticket + 1 }.stand list (.names ticket)), ticket)

/-- The time of a list's query is up. -/
def expireNames (session : Session) (list : NameList) : Session :=
  match (session.queueOf list).holder with
  | some query => resume (session.endQuery list query)
  | none => session

/-- Bytes come in, and queries that they answer end. -/
def feed (session : Session) (chunk : Text.Bytes) : Session × Nat :=
  let (session, count) := session.receive chunk
  (session.resume, count)

/-- Begins to close the session. The number is the caller's. As no write is under
way, it is done at once unless a query for names is in flight. -/
def close (session : Session) : Session × Nat :=
  let ticket := session.nextTicket
  let (session, wasOpen) := shut { session with nextTicket := ticket + 1 }
  (resume (session.stand .base (.close ticket wasOpen)), ticket)

/-- What a caller who had to wait has got. -/
def settledFor (session : Session) (ticket : Nat) : Option Settled :=
  session.settled.lookup ticket

/-- How many jobs closing the session has ended, once it is done. -/
def endedBy (session : Session) (ticket : Nat) : Option Nat :=
  match session.settledFor ticket with
  | some (.closed count) => some count
  | _ => none

end ReplLink.Session
