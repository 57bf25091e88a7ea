import ReplLink.CommandLine.Arguments
import ReplLink.CommandLine.Line
import ReplLink.CommandLine.Output
import ReplLink.Session.Calls

/-!
# A conversation with an interpreter

The lines of the standard input are dealt with one at a time. Code is sent, and
the next line has to wait until the outcome is there or the time is up. What
happens outside reaches the conversation as a sequence of inputs in any order:
lines that are read, bytes that arrive, the interpreter hanging up, time
running out. Lines that are read too early stand in a queue.
-/

namespace ReplLink.CommandLine

open ReplLink.Text ReplLink.Routing

/-- What a conversation waits for. -/
inductive Waiting where
  /-- The outcome of code; the number is the waiting caller's. -/
  | reply (waiter : Nat)
  /-- The names of a list; the number is the waiting caller's. -/
  | names (list : NameList) (ticket : Nat)
  deriving DecidableEq, Repr

/-- What reaches a conversation. -/
inductive Input where
  /-- A line is read from the standard input. -/
  | read (line : Line)
  /-- Bytes come in from the interpreter. -/
  | arrived (chunk : Bytes)
  /-- The interpreter hangs up. -/
  | hungUp
  /-- The time of what is waited for is up. -/
  | timeUp
  deriving DecidableEq, Repr

/-- A conversation. -/
structure Conversation where
  /-- Replies are printed as JSON. -/
  json : Bool
  /-- The session. -/
  session : Session
  /-- The lines that have not been dealt with. -/
  queue : List Line
  /-- What the current line waits for. -/
  waiting : Option Waiting
  /-- What has been printed. -/
  printed : List Output
  /-- The exit code, once the conversation has ended. -/
  exit : Option Nat

namespace Conversation

/-- A conversation at its start. -/
def opened (json : Bool) (session : Session) : Conversation :=
  ⟨json, session, [], none, [], none⟩

/-- Prints something. -/
def print (conversation : Conversation) (output : Output) : Conversation :=
  { conversation with printed := conversation.printed ++ [output] }

/-- Ends with an exit code. The session stays as it is. -/
def stop (conversation : Conversation) (code : Nat) : Conversation :=
  { conversation with exit := some code }

/-- Closes the session. -/
def closeSession (conversation : Conversation) : Conversation :=
  { conversation with session := conversation.session.close.1 }

/-- What is printed for the names of a list. -/
def renderNames (list : NameList) : Except SessionError (List String) → Output
  | .ok names => .line s!"{names.length} {list.word} names"
  | .error why => .note ("Error: " ++ why.message)

/-- What is printed for what has been waited for, once it is there. -/
def result? (conversation : Conversation) : Waiting → Option Output
  | .reply waiter =>
    (conversation.session.router.wordFor waiter).map fun word =>
      .line (replyText conversation.json word)
  | .names list ticket =>
    match conversation.session.settledFor ticket with
    | some (.names result) => some (renderNames list result)
    | _ => none

/-- Prints what has been waited for, if it is there. -/
def look (conversation : Conversation) : Conversation :=
  match conversation.waiting with
  | none => conversation
  | some waiting =>
    match conversation.result? waiting with
    | none => conversation
    | some output => { conversation.print output with waiting := none }

/-- Sends code for evaluation. -/
def evaluate (conversation : Conversation) (code : String) : Conversation :=
  match conversation.session.eval .root code with
  | (session, .ok (_, waiter)) =>
    { conversation with session, waiting := some (.reply waiter) }
  | (session, .error .closed) =>
    let report : Report := ⟨"Interpreter closed the connection", []⟩
    (({ conversation with session }.closeSession).print (.note report.text)).stop 1
  | (session, .error why) =>
    { conversation with session }.print (.note ("Error: " ++ why.message))

/-- Asks for the names of a list. -/
def askNames (conversation : Conversation) (list : NameList) : Conversation :=
  let (session, ticket) := conversation.session.askNames list
  look { conversation with session, waiting := some (.names list ticket) }

/-- Does what a line asks for. -/
def satisfy (conversation : Conversation) : Demand → Conversation
  | .nothing => conversation
  | .quit => conversation.closeSession.stop 0
  | .names list => conversation.askNames list
  | .unknownList word =>
    conversation.print (.note s!"Unknown name list {word}, expected base or core")
  | .unknownCommand line => conversation.print (.note ("Unknown command " ++ line))
  | .evaluate code => conversation.evaluate code

/-- Deals with a line. One that is no text ends the conversation at once. -/
def take (conversation : Conversation) : Line → Conversation
  | .text line => conversation.satisfy (.ofLine line)
  | .unreadable fault =>
    let report : Report := ⟨fault.message, []⟩
    (conversation.print (.note report.text)).stop 1
  | .finish => conversation.closeSession.stop 0

/-- The conversation can deal with a line. -/
def isReady (conversation : Conversation) : Bool :=
  conversation.waiting.isNone && conversation.exit.isNone

/-- Deals with lines as long as nothing has to be waited for. -/
def takeAll : List Line → Conversation → Conversation
  | [], conversation => { conversation with queue := [] }
  | line :: rest, conversation =>
    if conversation.isReady then takeAll rest (conversation.take line)
    else { conversation with queue := line :: rest }

/-- Goes on with the lines that stand in the queue. -/
def proceed (conversation : Conversation) : Conversation :=
  takeAll conversation.queue conversation

/-- Stops waiting. A query for names is over then, but code that was sent is
not, and its outcome may still come. -/
def giveUp (conversation : Conversation) : Conversation :=
  match conversation.waiting with
  | none => conversation
  | some (.reply waiter) =>
    let reply := conversation.session.replyTo waiter
    { conversation.print (.line (replyText conversation.json reply)) with waiting := none }
  | some (.names list _) =>
    look { conversation with session := conversation.session.expireNames list }

/-- Takes an input. After the end nothing happens any more. -/
def step (conversation : Conversation) (input : Input) : Conversation :=
  if conversation.exit.isSome then conversation
  else
    match input with
    | .read line => proceed { conversation with queue := conversation.queue ++ [line] }
    | .arrived chunk =>
      if conversation.session.connected then
        (look { conversation with session := (conversation.session.feed chunk).1 }).proceed
      else conversation
    | .hungUp => { conversation with session := conversation.session.hangUp }
    | .timeUp => conversation.giveUp.proceed

/-- Takes inputs one after the other. -/
def run (conversation : Conversation) (inputs : List Input) : Conversation :=
  inputs.foldl step conversation

end Conversation

end ReplLink.CommandLine
