import ReplLink.CommandLine.Launch
import Std.Async.DNS
import Std.Async.TCP
import Std.Async.Timer

/-!
# The program

Carries out in the world what a conversation decides: connects, reads lines and
bytes, sends what was written, keeps the spilled files, prints, and measures
time. A line is read from the standard input only when the conversation is
ready for it, and bytes that have come in by then go first.
-/

namespace ReplLink.Main

open Std.Net Std.Async
open ReplLink.CommandLine

/-- The addresses of a host. -/
def addressesOf (host : String) : IO (List IPAddr) := do
  match IPv4Addr.ofString host, IPv6Addr.ofString host with
  | some address, _ => return [.v4 address]
  | none, some address => return [.v6 address]
  | none, none => return (← (DNS.getAddrInfo host "").block).toList

/-- An address with a port. -/
def withPort (port : UInt16) : IPAddr → SocketAddress
  | .v4 address => .v4 ⟨address, port⟩
  | .v6 address => .v6 ⟨address, port⟩

/-- Connects to the first address that can be reached. -/
def connectFirst (port : UInt16) : List IPAddr → IO (Option TCP.Socket.Client)
  | [] => return none
  | address :: others => do
    let socket ← TCP.Socket.Client.mk
    try
      (socket.connect (withPort port address)).block
      try socket.noDelay catch _ => pure ()
      return some socket
    catch _ => connectFirst port others

/-- A duration in milliseconds. -/
def milliseconds (n : Nat) : Std.Time.Millisecond.Offset := .ofNat n

/-- Tries to connect so many more times. -/
def connectWithin (settings : Settings) : Nat → IO (Option TCP.Socket.Client)
  | 0 => return none
  | left + 1 => do
    let addresses ← try addressesOf settings.host catch _ => pure []
    match ← connectFirst settings.port addresses with
    | some socket => return some socket
    | none =>
      if left = 0 then return none
      (sleep (milliseconds settings.tryInterval)).block
      connectWithin settings left

/-- What comes in next from the interpreter. -/
def nextIncoming (socket : TCP.Socket.Client) : IO (Task Input) := do
  let task ← (socket.recv? 8192).asTask
  return task.run.map fun
    | .ok (some chunk) => .arrived chunk.toList
    | _ => .hungUp

/-- The moment at which a caller has waited long enough. -/
def timerOf (settings : Settings) : IO (Task Input) := do
  let task ← (sleep (milliseconds settings.waitLimit)).asTask
  return task.run.map fun _ => .timeUp

/-- Reads a line of the standard input behind what is read in reverse. -/
partial def readLine (stdin : IO.FS.Stream) (seen : Text.Bytes) : IO Line := do
  match (← stdin.read 1).toList with
  | [] => return if seen.isEmpty then .finish else .ofBytes seen.reverse
  | byte :: _ =>
    if byte = Text.Ascii.lineFeed then return .ofBytes (Line.withoutReturn seen.reverse)
    else readLine stdin (byte :: seen)

/-- The spilled files of a conversation. -/
def spillsOf (conversation : Conversation) : List (String × FileEntry) :=
  conversation.session.router.files.spills

/-- Writes the files that an input has spilled. -/
def writeSpills (before after : Conversation) : IO Unit := do
  for (path, entry) in spillsOf after do
    if (spillsOf before).any (·.1 == path) then continue
    match entry with
    | .spilled code => IO.FS.writeFile path code
    | _ => pure ()

/-- Takes an input. If a file cannot be written, nothing can be spilled for
this input. -/
def stepSpilling (before : Conversation) (input : Input) : IO Conversation := do
  let after := before.step input
  try
    writeSpills before after
    return after
  catch _ =>
    let blocked := { before with session := { before.session with canSpill := false } }.step input
    return { blocked with session := { blocked.session with canSpill := true } }

/-- Sends, deletes and prints what an input has led to. -/
def carryOut (socket : TCP.Socket.Client) (before after : Conversation) : IO Unit := do
  for sent in after.session.written.drop before.session.written.length do
    try (socket.send sent.line.toUTF8).block catch _ => pure ()
  for (path, _) in spillsOf before do
    if (spillsOf after).any (·.1 == path) then continue
    try IO.FS.removeFile path catch _ => pure ()
  for output in after.printed.drop before.printed.length do
    match output with
    | .out text => IO.print text
    | .err text => IO.eprint text
  (← IO.getStdout).flush

/-- Leads a conversation to its end. -/
partial def converse (socket : TCP.Socket.Client) (stdin : IO.FS.Stream)
    (incoming timer : Option (Task Input)) (conversation : Conversation) : IO Conversation := do
  let take (input : Input) (incoming : Option (Task Input)) : IO Conversation := do
    let after ← stepSpilling conversation input
    carryOut socket conversation after
    let timer ←
      if after.waiting = conversation.waiting then pure timer
      else if after.waiting.isNone then pure none
      else some <$> timerOf after.session.settings
    converse socket stdin incoming timer after
  let takeIncoming (task : Task Input) : IO Conversation := do
    match task.get with
    | .arrived chunk => take (.arrived chunk) (some (← nextIncoming socket))
    | input => take input none
  if conversation.exit.isSome then return conversation
  if conversation.isReady then
    if let some task := incoming then
      if ← IO.hasFinished task then return ← takeIncoming task
    take (.read (← readLine stdin [])) incoming
  else
    match incoming, timer with
    | some incoming, some timer =>
      match ← IO.waitAny [incoming, timer] with
      | .timeUp => take .timeUp (some incoming)
      | _ => takeIncoming incoming
    | some incoming, none => takeIncoming incoming
    | none, some timer => take timer.get none
    | none, none => take .timeUp none

/-- The bytes of a file, if it can be read. -/
def contentAt (path : String) : IO (Option Text.Bytes) := do
  try return some (← IO.FS.readBinFile path).toList catch _ => return none

/-- The place of the settings file of the user. -/
def standardPath : IO String := do
  let home := (← IO.getEnv "HOME").getD ""
  let directory := (← IO.getEnv "XDG_CONFIG_HOME").getD (home ++ "/.config")
  return directory ++ "/snailwire/config.toml"

/-- Random numbers of thirty-two bits. -/
def randomDraw : IO (Nat → Nat) := do
  let start ← IO.rand 0 (UInt32.size - 1)
  let step ← IO.rand 0 (UInt32.size / 2 - 1)
  return fun n => (start + n * (2 * step + 1)) % UInt32.size

/-- Ends before any conversation. -/
def finish (ending : Ending) : IO UInt32 := do
  match ending.output with
  | .out text => IO.print text
  | .err text => IO.eprint text
  return .ofNat ending.exit

/-- Runs the program with its arguments. -/
def run (arguments : List String) : IO UInt32 := do
  let asked := (Arguments.parse arguments).toOption.bind (·.settings)
  let askedContent ← match asked with
    | some path => contentAt path
    | none => pure none
  let standardPath ← standardPath
  let standard : Settings.Source := ⟨standardPath, ← contentAt standardPath⟩
  match plan arguments (fun _ => askedContent) standard with
  | .error ending => finish ending
  | .ok plan =>
    let socket ← connectWithin plan.settings plan.settings.tryCount
    let spillDirectory := (← IO.getEnv "TMPDIR").getD "/tmp"
    match plan.launch (fun _ => socket.isSome) spillDirectory (← randomDraw), socket with
    | .error ending, _ => finish ending
    | .ok _, none => return 1
    | .ok conversation, some socket =>
      let incoming ← nextIncoming socket
      let ended ← converse socket (← IO.getStdin) (some incoming) none conversation
      try socket.shutdown.block catch _ => pure ()
      return .ofNat (ended.exit.getD 0)

end ReplLink.Main

/-- Runs the program with its arguments. -/
def main (arguments : List String) : IO UInt32 := ReplLink.Main.run arguments
