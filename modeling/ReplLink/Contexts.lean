import ReplLink.Session.Calls

/-!
# One session per context

An editor has many contexts, and each has at most one session at a time. Who
wants a context's session gets the connected one if there is one. Otherwise a
connection is opened, which may take long and holds up nobody, and then put in
its place: if another caller was faster, its session stays and the new one is
closed; a dead session makes room and is closed. So every session that was ever
opened is either the one of its context or closed.
-/

namespace ReplLink

open ReplLink.Routing

/-- The sessions of an editor. -/
structure Contexts where
  /-- The settings that contexts have in common. -/
  settings : Settings
  /-- Who is told of busy times and failures. -/
  frontEnd : FrontEnd
  /-- The directory that code is spilled to. -/
  spillDirectory : String
  /-- For each session the random numbers that its ids are made of. -/
  draw : Nat → Nat → Nat
  /-- Every session that was ever opened, in order. -/
  sessions : List Session
  /-- The place in this list of each context's session. -/
  current : Keyed Nat

namespace Contexts

/-- No session is open. -/
def idle (settings : Settings) (frontEnd : FrontEnd) (spillDirectory : String)
    (draw : Nat → Nat → Nat) : Contexts :=
  ⟨settings, frontEnd, spillDirectory, draw, [], .empty⟩

/-- A session by its place. -/
def session? (contexts : Contexts) (place : Nat) : Option Session := contexts.sessions[place]?

/-- A session goes on. -/
def put (contexts : Contexts) (place : Nat) (session : Session) : Contexts :=
  { contexts with sessions := contexts.sessions.set place session }

/-- The session at a place exists and is connected. -/
def isLive (contexts : Contexts) (place : Nat) : Bool :=
  (contexts.session? place).any (·.connected)

/-- The place of a context's session, connected or not. -/
def get (contexts : Contexts) (context : String) : Option Nat := contexts.current.get? context

/-- The place of a context's session if it is connected. -/
def connected? (contexts : Contexts) (context : String) : Option Nat :=
  (contexts.get context).filter contexts.isLive

/-- How many contexts have a session. -/
def size (contexts : Contexts) : Nat := contexts.current.size

/-- Closes a session. -/
def closeAt (contexts : Contexts) (place : Nat) : Contexts :=
  { contexts with sessions := contexts.sessions.modify place (·.close.1) }

/-- Opens a connection for a context, with interpreters at the addresses at
which something listens. -/
def openSession (contexts : Contexts) (listens : String → Bool) (context : String)
    (settings : Settings) : Except SessionError (Contexts × Nat) :=
  let place := contexts.sessions.length
  match Session.connect listens context settings contexts.frontEnd contexts.spillDirectory
    (contexts.draw place) with
  | .error why => .error why
  | .ok session => .ok ({ contexts with sessions := contexts.sessions ++ [session] }, place)

/-- Makes an opened session the one of its context, unless a connected one is
there already. -/
def install (contexts : Contexts) (context : String) (place : Nat) : Contexts × Nat :=
  match contexts.connected? context with
  | some winner => (contexts.closeAt place, winner)
  | none =>
    let installed := { contexts with current := contexts.current.put context place }
    match contexts.get context with
    | some dead => (installed.closeAt dead, place)
    | none => (installed, place)

/-- The session of a context. If none is connected, one is opened with settings
of its own. -/
def connectAs (contexts : Contexts) (listens : String → Bool) (context : String)
    (settings : Settings) : Contexts × Except SessionError Nat :=
  match contexts.connected? context with
  | some place => (contexts, .ok place)
  | none =>
    match contexts.openSession listens context settings with
    | .error why => (contexts, .error why)
    | .ok (opened, place) =>
      let (installed, place) := opened.install context place
      (installed, .ok place)

/-- The session of a context. If none is connected, one is opened. -/
def connect (contexts : Contexts) (listens : String → Bool) (context : String) :
    Contexts × Except SessionError Nat :=
  contexts.connectAs listens context contexts.settings

/-- Closes and forgets the session of a context. Tells whether there was one. -/
def close (contexts : Contexts) (context : String) : Contexts × Bool :=
  match contexts.get context with
  | some place =>
    (closeAt { contexts with current := contexts.current.erase context } place, true)
  | none => (contexts, false)

/-- Closes and forgets every session. -/
def closeAll (contexts : Contexts) : Contexts :=
  contexts.current.entries.foldl (fun contexts entry => contexts.closeAt entry.2)
    { contexts with current := .empty }

/-- The interpreter at an address closes all its connections. -/
def hangUp (contexts : Contexts) (address : String) : Contexts :=
  { contexts with
    sessions := contexts.sessions.map fun session =>
      if session.address = address then session.hangUp else session }

end Contexts

end ReplLink
