import ReplLink.Settings
import ReplLink.Routing.Router
import ReplLink.Routing.RequestId
import ReplLink.Namespace
import ReplLink.Request

/-!
# Sessions

A session is one connection to an interpreter. Sending registers a job under a
fresh id before a byte is written, so that no response can outrun it; bytes
that come in are put together to responses and routed to their jobs, in any
order. Code that is too long is spilled to a file, and what is written instead
loads the file.

A connection ends in two steps. When the interpreter hangs up nothing more can
be sent, but jobs stay registered and bytes that are still fed to the session
are taken. Closing the session ends all jobs.

What a session does is a row of steps, and each of them is done before the next
one begins: a request is sent, a chunk of bytes is taken apart with all that its
responses set off, a caller's time is up. So the lock under which lines are
written is free between any two steps and has no place in the state. How long a
step takes is left out, and with it that a line which the interpreter does not
take holds up all who send and who closes the session. A spilled file is named
after the id of its request, and whatever is said of its content has as a
condition that nothing lies under this name before.
-/

namespace ReplLink

open ReplLink.Text ReplLink.Routing

/-- The way to the interpreter. -/
inductive Channel where
  /-- Lines can be written. -/
  | up
  /-- Every write fails. -/
  | broken
  /-- The session has closed it. -/
  | shut
  deriving DecidableEq, Repr, Inhabited

/-- A line that was sent. -/
structure Sent where
  /-- The id of its request. -/
  id : String
  /-- The line. -/
  line : String
  deriving DecidableEq, Repr

/-- Why there are no names. -/
inductive NoNames where
  /-- The value is no list of names. -/
  | notNames
  /-- The query has no value. -/
  | nothing
  /-- The query failed. -/
  | failed (message : String)
  /-- No outcome came in time. -/
  | noReply
  deriving DecidableEq, Repr

/-- The reason in words. -/
def NoNames.reason : NoNames → String
  | notNames => "reply is not a list of names"
  | nothing => "query returned nothing"
  | failed message => message
  | noReply => "no reply"

/-- What can go wrong with a session. -/
inductive SessionError where
  /-- No connection could be made. -/
  | unreachable (address : String) (tryCount : Nat) (cause : String)
  /-- The namespace cannot be written in a request. -/
  | badToken (refusal : BadToken)
  /-- Writing the request failed. -/
  | unsent (cause : String)
  /-- The session is closed or the interpreter has hung up. -/
  | closed
  /-- The code could not be spilled to a file. -/
  | unspilled (cause : String)
  /-- A query for names brought no names. -/
  | noNames (list : NameList) (why : NoNames)
  deriving DecidableEq, Repr

/-- The wording of an error. -/
def SessionError.message : SessionError → String
  | unreachable address tryCount cause =>
    s!"Connection to {address} failed after {tryCount} attempt(s): {cause}"
  | badToken refusal => refusal.message
  | unsent cause => "Send failed: " ++ cause
  | closed => "Session is closed"
  | unspilled cause => "Temp file error: " ++ cause
  | noNames list why => s!"Names for {list.word} unavailable: {why.reason}"

/-- What a write to a broken connection fails with. -/
def brokenPipe : String := "Broken pipe (os error 32)"

/-- What a read fails with when the interpreter closes without having read. -/
def connectionReset : String := "Connection reset by peer (os error 104)"

/-- What a connection fails with where nobody listens. -/
def connectionRefused : String := "Connection refused (os error 111)"

/-- What writing a file fails with in a directory that does not exist. -/
def noDirectory (path : String) : String :=
  s!"No such file or directory (os error 2) at path {quote path}"

/-- A claim to a list of names. -/
inductive Claim where
  /-- A caller wants its names. -/
  | names (ticket : Nat)
  /-- Who closes the session, with a channel that was open or not, wants to empty it. -/
  | close (ticket : Nat) (wasOpen : Bool)
  deriving DecidableEq, Repr

/-- A query for names that is in flight. -/
structure Query where
  /-- The caller who asked. -/
  ticket : Nat
  /-- The number under which the outcome is waited for. -/
  waiter : Nat
  deriving DecidableEq, Repr

/-- Those who want a list of names. One at a time has it: the caller whose
query is in flight. The others stand in line. -/
structure Queue where
  /-- The query in flight. -/
  holder : Option Query
  /-- The claims behind it, in the order in which they were made. -/
  line : List Claim
  deriving DecidableEq, Repr, Inhabited

/-- What a caller has been waiting for. -/
inductive Settled where
  /-- The names of a list, or why there are none. -/
  | names (result : Except SessionError (List String))
  /-- The number of jobs that closing the session ended. -/
  | closed (count : Nat)

/-- A connection to an interpreter. -/
structure Session where
  /-- The context that the session belongs to. -/
  context : String
  /-- The interpreter's address. -/
  address : String
  /-- The settings. -/
  settings : Settings
  /-- The directory that code is spilled to. -/
  spillDirectory : String
  /-- That directory exists. -/
  canSpill : Bool
  /-- Neither has the interpreter hung up nor is the session closed. -/
  connected : Bool
  /-- The way to the interpreter. -/
  channel : Channel
  /-- The lines that were written, in order. -/
  written : List Sent
  /-- The jobs in flight, their files, and what the editor has seen. -/
  router : Router
  /-- The bytes that came in and are not used up. -/
  inbox : Stream.Inbox
  /-- The lines that are remembered, oldest first. -/
  history : List Sent
  /-- The names that are known. -/
  names : KnownNames
  /-- Those who want the names of the standard library. -/
  baseQueue : Queue
  /-- Those who want the names built into the interpreter. -/
  coreQueue : Queue
  /-- What callers have got who had to wait, the last one first. -/
  settled : List (Nat × Settled)
  /-- The number of the next caller who waits. -/
  nextTicket : Nat
  /-- The random numbers that ids are made of, in order. -/
  draw : Nat → Nat
  /-- How many of them are used up. -/
  drawn : Nat

namespace Session

/-- A session at its start. -/
def opened (context address : String) (settings : Settings) (frontEnd : FrontEnd)
    (spillDirectory : String) (draw : Nat → Nat) : Session where
  context := context
  address := address
  settings := settings
  spillDirectory := spillDirectory
  canSpill := true
  connected := true
  channel := .up
  written := []
  router := (Router.idle frontEnd).note [.notice (.connected context address)]
  inbox := .empty settings.bufferLimit
  history := []
  names := .empty
  baseQueue := ⟨none, []⟩
  coreQueue := ⟨none, []⟩
  settled := []
  nextTicket := 0
  draw := draw
  drawn := 0

/-- Opens a session, if anything listens at the address that is set. -/
def connect (listens : String → Bool) (context : String) (settings : Settings)
    (frontEnd : FrontEnd) (spillDirectory : String) (draw : Nat → Nat) :
    Except SessionError Session :=
  if listens settings.address then
    .ok (opened context settings.address settings frontEnd spillDirectory draw)
  else .error (.unreachable settings.address settings.tryCount connectionRefused)

/-- Adds to what the editor has seen. -/
def note (session : Session) (events : List Event) : Session :=
  { session with router := session.router.note events }

/-- How many ids are registered. -/
def inFlight (session : Session) : Nat := session.router.roster.size

/-- An id is registered. -/
def isInFlight (session : Session) (id : String) : Bool :=
  session.router.roster.contains id

/-- How many bytes wait for the rest of their response. -/
def buffered (session : Session) : Nat := session.inbox.size

/-- The session in words, for a log or a debugger. -/
def summary (session : Session) : String :=
  "ReplSession \x7b " ++ s!"context: ContextId({quote session.context}), "
    ++ s!"addr: {quote session.address}, connected: {session.connected}, "
    ++ s!"outstanding: {session.inFlight} " ++ "\x7d"

/-- The path of the file for the code of a request. -/
def spillPath (session : Session) (id : String) : String :=
  session.spillDirectory ++ "/snippet-" ++ id

/-- A job's code has to travel in a file: none is attached, and it is asked for
or the code is longer than the limit. -/
def mustSpill (session : Session) (code : String) (job : Job) : Bool :=
  job.attachment.isNone
    && (job.viaFile || session.settings.longestInline < Utf8.size code.toList)

/-- The code that loads a file: the loader with each mark replaced by the path,
escaped for a string literal. -/
def loaderFor (loader path : String) : String :=
  String.ofList
    (replaceAll "\x7bpath\x7d".toList (Request.escape path).toList loader.toList)

/-- Remembers a sent line. The oldest ones make room, and a limit of zero
remembers none. -/
def remember (limit : Nat) (history : List Sent) (sent : Sent) : List Sent :=
  if limit = 0 then history
  else
    history.drop (history.length + 1 - limit)
      ++ [{ sent with line := String.ofList (trimEnd sent.line.toList) }]

/-- Takes back a request that could not be written. -/
def takeBack (session : Session) (id : String) (error : SessionError) : Session :=
  let session := session.note [.notice (.notSent session.context id error.message)]
  match Roster.takeBack session.router.roster id with
  | some (job, roster) =>
    { session with router := Router.release { session.router with roster } job }
  | none => session

/-- Writes the line of a registered request, or takes the request back. The line
is written as a whole, or the write fails: nobody finds a write under way. -/
def write (session : Session) (id : String) (line : String) :
    Session × Except SessionError Sent :=
  match session.channel with
  | .up =>
    let sent : Sent := ⟨id, line⟩
    ({ session with
        written := session.written ++ [sent],
        history := remember session.settings.historyLimit session.history sent },
      .ok sent)
  | .broken => (session.takeBack id (.unsent brokenPipe), .error (.unsent brokenPipe))
  | .shut => (session.takeBack id .closed, .error .closed)

/-- Registers a job under an id, tells the editor, and writes its line. -/
def enter (session : Session) (id : String) (tokens : List String) (code : String)
    (job : Job) : Session × Except SessionError Sent :=
  let router := session.router
  let router := { router with roster := router.roster.put id (.held job) }
  let router := router.note (router.frontEnd.start job.origin)
  { session with router, drawn := session.drawn + 1 }.write id
    (Request.encode ⟨tokens, id, code⟩)

/-- Sends code for evaluation in a namespace. -/
def send (session : Session) (path : Namespace) (code : String) (job : Job) :
    Session × Except SessionError Sent :=
  if !session.connected then (session, .error .closed)
  else
    match path.tokens with
    | .error refusal => (session, .error (.badToken refusal))
    | .ok tokens =>
      let id := RequestId.fresh (session.draw session.drawn) session.router.roster
      if session.mustSpill code job then
        let file := session.spillPath id
        if !session.canSpill then (session, .error (.unspilled (noDirectory file)))
        else
          let job := { job with attached := [⟨file, .spilled code⟩] }
          let session := { session with router := session.router.layFiles job }
          session.enter id tokens (loaderFor session.settings.fileLoader file) job
      else session.enter id tokens code job

/-- Takes what the stream hands out. The number of responses that reached their
job goes up by one for each. -/
def accept (state : Session × Nat) (delivery : Stream.Delivery) : Session × Nat :=
  let (session, count) := state
  match delivery with
  | .response response =>
    match session.router.perform (.route response) with
    | (router, .done) => ({ session with router }, count + 1)
    | (router, _) => ({ session with router }, count)
  | .violation why consumed =>
    (session.note [.notice (.dropped session.context consumed why.reason)], count)

/-- Takes bytes from the interpreter and tells how many responses reached their
job. -/
def receive (session : Session) (chunk : Bytes) : Session × Nat :=
  let (deliveries, inbox) := session.inbox.receive chunk
  deliveries.foldl accept ({ session with inbox }, 0)

/-- The interpreter hangs up. The session notices while it is still reading. -/
def hangUp (session : Session) : Session :=
  if session.connected then
    { session.note [.notice (.closedByPeer session.context)] with connected := false }
  else session

/-- Reading from the interpreter fails. -/
def readFails (session : Session) (cause : String) : Session :=
  if session.connected then
    { session.note [.notice (.readFailed session.context cause)] with connected := false }
  else session

/-- The first part of closing: nothing is sent or read any more, and what is
buffered is forgotten. Tells whether the channel was open. -/
def shut (session : Session) : Session × Bool :=
  ({ session with channel := .shut, connected := false, inbox := session.inbox.forget },
    session.channel ≠ .shut)

/-- The last part of closing: every job that waits is ended. -/
def endJobs (session : Session) (wasOpen : Bool) : Session × Nat :=
  let policy := session.settings.onClose
  let count := (Roster.takeAll session.router.roster).1.length
  let session :=
    { session with router := (session.router.perform (.endAll policy)).1 }
  let closing : List Event :=
    if wasOpen then [.notice (.closed session.context session.address count policy)] else []
  (session.note closing, count)

/-- Writes fail from now on. -/
def breakWrites (session : Session) : Session :=
  if session.channel = .up then { session with channel := .broken } else session

/-- The directory that code is spilled to goes away, with all that is in it. -/
def blockSpill (session : Session) : Session :=
  let router := session.router
  { session with
    canSpill := false
    router := { router with files := router.files.withoutSpills } }

/-- Deletes a file behind the session's back and tells whether it was there. -/
def deleteFile (session : Session) (path : String) : Session × Bool :=
  let (router, _) := session.router.perform (.deleteFile path)
  ({ session with router }, session.router.files.isFile path)

end Session

end ReplLink
