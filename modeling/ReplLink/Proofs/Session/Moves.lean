import ReplLink.Proofs.Session.Accounts

/-!
# Runs of a session

Callers send code, wait for outcomes and ask for names, the interpreter writes
and hangs up, and in the end the session is closed. All of it comes to deeds
that keep the accounts, so after any run, and so at any time of any run, as many
busy times have begun and not ended as requests are outstanding, and the files of
spilled code are those of the outstanding requests whose code was spilled.
-/

namespace ReplLink.Session

open ReplLink.Routing ReplLink.Stream ReplLink.Text

/-- Some row of deeds leads from a start to this session. -/
def Reaches (start now : Session) : Prop := ∃ charges, start.Evolves now charges

section Reaches

variable {start now : Session}

/-- A session with the same footing is reached by the same deeds. -/
theorem Reaches.kept {after : Session} (h : start.Reaches now) (hs : after.footing = now.footing) :
    start.Reaches after := by
  obtain ⟨charges, h⟩ := h
  exact ⟨charges, h.kept hs⟩

theorem Reaches.noted (h : start.Reaches now) (notice : Notice) :
    start.Reaches (now.note [.notice notice]) := by
  obtain ⟨charges, h⟩ := h
  exact ⟨charges, h.noted notice⟩

/-- Sending is a deed, whatever comes of it. -/
theorem Reaches.send (h : start.Reaches now) (path : Namespace) (code : String) {job : Job}
    (hp : job.IsPassive) (hk : job.KeepsOff start.spillPath) :
    start.Reaches (now.send path code job).1 := by
  obtain ⟨charges, h⟩ := h
  cases hs : now.send path code job with
  | mk after result =>
    cases result with
    | ok sent => exact ⟨_, h.sent hp hk hs⟩
    | error error => exact ⟨_, h.unsent hp hk hs⟩

/-- A call is a send with somebody waiting. -/
theorem Reaches.call (h : start.Reaches now) (path : Namespace) (code : String) {job : Job}
    (hp : job.IsPassive) (hk : job.KeepsOff start.spillPath) :
    start.Reaches (now.call path code job).1 := by
  have hsend : start.Reaches
      (now.send path code { job with waiter := some now.nextTicket }).1 := h.send path code hp hk
  unfold Session.call
  dsimp only
  split
  · next after sent hs =>
    rw [hs] at hsend
    exact hsend.kept rfl
  · next after error hs =>
    rw [hs] at hsend
    exact hsend

/-- An evaluation is a call with a passive job. -/
theorem Reaches.eval (h : start.Reaches now) (path : Namespace) (code : String) :
    start.Reaches (now.eval path code).1 :=
  h.call path code ⟨rfl, rfl⟩ (JobOf.keepsOff_of_attached_nil rfl)

/-- Each thing that the stream hands out is routed or noted. -/
theorem Reaches.accept (h : start.Reaches now) (count : Nat) (delivery : Delivery) :
    start.Reaches (accept (now, count) delivery).1 := by
  cases delivery with
  | violation why consumed => exact h.noted _
  | response answer =>
    obtain ⟨charges, h⟩ := h
    have hrouted := h.routed answer
    rw [Session.accept]
    split
    · next router hr =>
      rw [hr] at hrouted
      exact ⟨_, hrouted⟩
    · next router reply _ hr =>
      rw [hr] at hrouted
      exact ⟨_, hrouted⟩

/-- A chunk comes to a deed for each response in it. -/
theorem Reaches.receive (h : start.Reaches now) (chunk : Bytes) :
    start.Reaches (now.receive chunk).1 := by
  have hall : ∀ (deliveries : List Delivery) (state : Session × Nat), start.Reaches state.1 →
      start.Reaches (deliveries.foldl Session.accept state).1 := by
    intro deliveries
    induction deliveries with
    | nil => exact fun state hs => hs
    | cons delivery rest ih => exact fun state hs => ih _ (hs.accept state.2 delivery)
  exact hall _ _ (h.kept rfl)

/-- Ending the requests of a session is one deed. -/
theorem Reaches.endJobs (h : start.Reaches now) (wasOpen : Bool) :
    start.Reaches (now.endJobs wasOpen).1 := by
  obtain ⟨charges, h⟩ := h
  have hended : start.Reaches
      { now with router := (now.router.perform (.endAll now.settings.onClose)).1 } :=
    ⟨_, h.ended now.settings.onClose⟩
  cases wasOpen with
  | true => exact hended.noted _
  | false =>
    have hnote := Router.note_nil (now.router.perform (.endAll now.settings.onClose)).1
    exact hended.kept (congrArg (fun router => { now.footing with router }) hnote)

theorem Reaches.setQueue (h : start.Reaches now) (list : NameList) (queue : Queue) :
    start.Reaches (now.setQueue list queue) := by
  cases list with
  | base => exact h.kept rfl
  | core => exact h.kept rfl

theorem Reaches.settle (h : start.Reaches now) (ticket : Nat) (settled : Settled) :
    start.Reaches (now.settle ticket settled) :=
  h.kept rfl

/-- Only with the core list, which is left last, the requests are ended. -/
theorem Reaches.vacate (h : start.Reaches now) (list : NameList) (ticket : Nat)
    (wasOpen : Bool) : start.Reaches (now.vacate list ticket wasOpen) := by
  cases list with
  | base => exact h.kept rfl
  | core =>
    have hemptied : start.Reaches { now with names := { now.names with core := none } } :=
      h.kept rfl
    exact (hemptied.endJobs wasOpen).settle ticket _

/-- Serving a line of claims comes to one deed after the other. -/
theorem Reaches.serve (h : start.Reaches now) (list : NameList) (claims : List Claim) :
    start.Reaches (serve list claims now).1 := by
  induction claims generalizing now with
  | nil => exact h
  | cons claim rest ih =>
    cases claim with
    | close ticket wasOpen => exact ih (h.vacate list ticket wasOpen)
    | names ticket =>
      have hcall : start.Reaches
          (now.call .root (now.settings.question list) now.inquiry).1 :=
        h.call .root _ ⟨rfl, rfl⟩ (JobOf.keepsOff_of_attached_nil rfl)
      rw [Session.serve]
      split
      · next names _ => exact ih (h.settle ticket _)
      · split
        · next after sent waiter hs =>
          rw [hs] at hcall
          exact hcall
        · next after error hs =>
          rw [hs] at hcall
          exact ih (hcall.settle ticket _)

/-- Serving a list sends at most its query. -/
theorem Reaches.serveList (h : start.Reaches now) (list : NameList) :
    start.Reaches (serveList list now) :=
  ((h.setQueue list ⟨none, []⟩).serve list (now.queueOf list).line).setQueue list _

/-- When a query ends, its caller is served and the list is free. -/
theorem Reaches.endQuery (h : start.Reaches now) (list : NameList) (query : Query) :
    start.Reaches (now.endQuery list query) := by
  have hfilled : ∀ names, start.Reaches { now with names } :=
    fun names => h.kept rfl
  exact ((hfilled _).settle query.ticket _).serveList list

/-- Going on with a list comes to ending its query and serving the line. -/
theorem Reaches.resumeList (h : start.Reaches now) (list : NameList) :
    start.Reaches (resumeList list now) := by
  unfold Session.resumeList
  split
  · exact h.serveList list
  · next query _ =>
    split
    · exact h.endQuery list query
    · exact h

theorem Reaches.resume (h : start.Reaches now) : start.Reaches now.resume :=
  (h.resumeList .base).resumeList .core

/-- Asking for names comes to standing in line and serving the list. -/
theorem Reaches.askNames (h : start.Reaches now) (list : NameList) :
    start.Reaches (now.askNames list).1 := by
  have hnumbered : start.Reaches { now with nextTicket := now.nextTicket + 1 } :=
    h.kept rfl
  exact (hnumbered.setQueue list _).resume

/-- Giving up a query ends it and lets both lists go on. -/
theorem Reaches.expireNames (h : start.Reaches now) (list : NameList) :
    start.Reaches (now.expireNames list) := by
  unfold Session.expireNames
  split
  · next query _ => exact (h.endQuery list query).resume
  · exact h

/-- Closing stands in line for the base list, and both lists go on. -/
theorem Reaches.close (h : start.Reaches now) : start.Reaches now.close.1 := by
  have hshut : start.Reaches (shut { now with nextTicket := now.nextTicket + 1 }).1 :=
    h.kept rfl
  exact (hshut.setQueue .base _).resume

theorem Reaches.disconnect (h : start.Reaches now) (notice : Notice) :
    start.Reaches { now.note [.notice notice] with connected := false } :=
  (h.noted notice).kept rfl

/-- When the peer hangs up, that is noted and no request is touched. -/
theorem Reaches.hangUp (h : start.Reaches now) : start.Reaches now.hangUp := by
  unfold Session.hangUp
  split
  · exact h.disconnect _
  · exact h

/-- When reading fails, that is noted and no request is touched. -/
theorem Reaches.readFails (h : start.Reaches now) (cause : String) :
    start.Reaches (now.readFails cause) := by
  unfold Session.readFails
  split
  · exact h.disconnect _
  · exact h

theorem Reaches.breakWrites (h : start.Reaches now) : start.Reaches now.breakWrites := by
  unfold Session.breakWrites
  split
  · exact h.kept rfl
  · exact h

end Reaches

/-- What callers, the interpreter and the file system do with a session. -/
inductive Move where
  /-- Code is sent. -/
  | send (path : Namespace) (code : String) (job : Job)
  /-- Code is sent and a caller waits. -/
  | call (path : Namespace) (code : String) (job : Job)
  /-- Code of the session's own context is sent and a caller waits. -/
  | eval (path : Namespace) (code : String)
  /-- A caller asks for names. -/
  | askNames (list : NameList)
  /-- The time of a query for names is up. -/
  | expireNames (list : NameList)
  /-- Bytes come in. -/
  | receive (chunk : Bytes)
  /-- Queries that have been answered end. -/
  | resume
  /-- Bytes come in, and queries that they answer end. -/
  | feed (chunk : Bytes)
  /-- The interpreter hangs up. -/
  | hangUp
  /-- Reading from the interpreter fails. -/
  | readFails (cause : String)
  /-- Writing to the interpreter fails from now on. -/
  | breakWrites
  /-- The session is closed. -/
  | close
  /-- From now on, files can or cannot be written where code is spilled to. -/
  | allowSpills (canSpill : Bool)
  /-- Somebody else puts something in place. -/
  | place (attachment : Attachment)
  /-- Somebody else deletes a file. -/
  | deleteFile (path : String)

/-- The session after a move. -/
def act (session : Session) : Move → Session
  | .send path code job => (session.send path code job).1
  | .call path code job => (session.call path code job).1
  | .eval path code => (session.eval path code).1
  | .askNames list => (session.askNames list).1
  | .expireNames list => session.expireNames list
  | .receive chunk => (session.receive chunk).1
  | .resume => session.resume
  | .feed chunk => (session.feed chunk).1
  | .hangUp => session.hangUp
  | .readFails cause => session.readFails cause
  | .breakWrites => session.breakWrites
  | .close => session.close.1
  | .allowSpills canSpill => { session with canSpill }
  | .place attachment =>
    { session with router :=
        { session.router with files := session.router.files.lay attachment } }
  | .deleteFile path => (session.deleteFile path).1

/-- The session after one move after the other. -/
def run (session : Session) (moves : List Move) : Session := moves.foldl act session

/-- Callbacks give no commands, and only the session touches files of spilled
code. -/
def Move.IsFair (session : Session) : Move → Prop
  | .send _ _ job => job.IsPassive ∧ job.KeepsOff session.spillPath
  | .call _ _ job => job.IsPassive ∧ job.KeepsOff session.spillPath
  | .place attachment =>
    (∀ id, attachment.path ≠ session.spillPath id) ∧ attachment.entry.isSpilled = false
  | .deleteFile path => ∀ id, path ≠ session.spillPath id
  | _ => True

/-- Every move comes to a row of deeds. -/
theorem Reaches.act {start now : Session} (h : start.Reaches now) {move : Move}
    (hm : move.IsFair start) : start.Reaches (now.act move) := by
  cases move with
  | send path code job => exact h.send path code hm.1 hm.2
  | call path code job => exact h.call path code hm.1 hm.2
  | eval path code => exact h.eval path code
  | askNames list => exact h.askNames list
  | expireNames list => exact h.expireNames list
  | receive chunk => exact h.receive chunk
  | resume => exact h.resume
  | feed chunk => exact (h.receive chunk).resume
  | hangUp => exact h.hangUp
  | readFails cause => exact h.readFails cause
  | breakWrites => exact h.breakWrites
  | close => exact h.close
  | allowSpills canSpill => exact h.kept rfl
  | place attachment =>
    obtain ⟨charges, h⟩ := h
    exact ⟨charges, h.placed attachment hm.1 hm.2⟩
  | deleteFile path =>
    obtain ⟨charges, h⟩ := h
    exact ⟨charges, h.deleted path hm⟩

/-- So does every run. -/
theorem Reaches.run {start now : Session} (h : start.Reaches now) {moves : List Move}
    (hm : ∀ move ∈ moves, move.IsFair start) : start.Reaches (now.run moves) := by
  induction moves generalizing now with
  | nil => exact h
  | cons move rest ih =>
    exact ih (h.act (hm move List.mem_cons_self))
      fun other ho => hm other (List.mem_cons_of_mem _ ho)

/-- The accounts of a session with these requests outstanding. -/
structure Balanced (frontEnd : FrontEnd) (session : Session) (requests : List Charge) : Prop where
  /-- The roster lists the requests, and nothing else. -/
  listed : session.router.roster.waiting.Perm (requests.map (Charge.listed session.spillPath))
  /-- Their ids are the registered ones, -/
  registered : session.router.ids.Perm (requests.map (·.id))
  /-- each of them once. -/
  apart : session.router.ids.Nodup
  /-- The starts of busy times of a context are more than the ends by the number of
  requests from there. -/
  busy : ∀ origin, session.router.log.countP (isStart origin)
    = session.router.log.countP (isStop origin) + Charge.running frontEnd requests origin
  /-- Up to any moment before, there were no more ends than starts. -/
  steady : ∀ seen, seen <+: session.router.log → ∀ origin,
    seen.countP (isStop origin) ≤ seen.countP (isStart origin)
  /-- Spilled code lies on disk for each request whose code was spilled, where it
  belongs, and nowhere else. -/
  spills : ∀ path code, session.router.files.get? path = some (.spilled code) ↔
    ∃ request ∈ requests, request.spilled = true ∧ request.code = code ∧
      path = session.spillPath request.id
  /-- Nothing else lies where spilled code belongs. -/
  clear : ∀ id entry, session.router.files.get? (session.spillPath id) = some entry →
    entry.isSpilled = true

/-- A router that charges exactly the given requests balances their busy events, their spill
files and its roster. -/
theorem balanced_of_isCharged {frontEnd : FrontEnd} {session : Session} {requests : List Charge}
    (h : session.router.IsCharged session.spillPath frontEnd requests) :
    session.Balanced frontEnd requests where
  listed := h.waiting
  registered := h.ids_perm
  apart := h.keys
  busy := h.accounts.busy
  steady := h.accounts.steady
  spills := h.accounts.spills
  clear := h.accounts.clear

/-- The router of a session at its start is charged with nothing. -/
theorem isCharged_opened (context address : String) (settings : Settings) (frontEnd : FrontEnd)
    (spillDirectory : String) (draw : Nat → Nat) (pathOf : String → String) :
    (opened context address settings frontEnd spillDirectory draw).router.IsCharged pathOf
      frontEnd [] :=
  (Router.isCharged_idle pathOf frontEnd).note (areIdle_notice _)

/-- Whatever happens to a session, in whatever order, its accounts balance: busy
times that have not ended and files of spilled code are those of the outstanding
requests, that is, of those whose sending succeeded and that have neither had a
response nor been ended with the session since. -/
theorem balanced_run {context address : String} {settings : Settings} {frontEnd : FrontEnd}
    {spillDirectory : String} {draw : Nat → Nat} {start : Session}
    (hs : start = opened context address settings frontEnd spillDirectory draw)
    {moves : List Move} (hm : ∀ move ∈ moves, move.IsFair start) :
    (∃ requests, start.Evolves (start.run moves) requests) ∧
      ∀ requests, start.Evolves (start.run moves) requests →
        (start.run moves).Balanced frontEnd requests := by
  have hr : start.router.IsCharged start.spillPath frontEnd [] :=
    hs ▸ isCharged_opened context address settings frontEnd spillDirectory draw _
  refine ⟨Reaches.run ⟨[], .begun⟩ hm, fun requests h => ?_⟩
  obtain ⟨hdirectory, hcharged⟩ := h.isCharged hr
  rw [← spillPath_congr hdirectory] at hcharged
  exact balanced_of_isCharged hcharged

/-- A session at its start, which spills code to `/tmp`. -/
def quietStart : Session :=
  opened "main" "localhost:1" {} .editor "/tmp" fun drawn => 0xA0 + drawn

/-- A callback fails on the outcome of spilled code, a request has a file of its
caller, a query for names stays without an answer, and the session is closed. -/
def busyMoves : List Move :=
  [.send .root "1 + 1" { JobOf.plain "a" "buffer" "repl" with
      onSuccess := .panic .nameless, viaFile := true },
    .place ⟨"/home/notes", .attached "f()"⟩,
    .call .root "f()" { JobOf.plain "b" "notes" "repl" with
      attached := [⟨"/home/notes", .attached "f()"⟩] },
    .askNames .core,
    .feed (Utf8.encode "(response-done \"000000a0\" 2)".toList),
    .hangUp,
    .close]

/-- These moves are fair to a session that starts quietly. -/
theorem isFair_busyMoves : ∀ move ∈ busyMoves, move.IsFair quietStart := by
  have haway : ∀ id, "/home/notes" ≠ quietStart.spillPath id := by
    intro id he
    have htext := congrArg (fun path : String => path.toList.take 5) he
    simp [spillPath, quietStart, opened] at htext
  have hown : JobOf.KeepsOff quietStart.spillPath { JobOf.plain "b" "notes" "repl" with
      attached := [⟨"/home/notes", .attached "f()"⟩] } := by
    intro file hf
    rw [← Option.some.inj hf]
    exact haway
  simp only [busyMoves, List.forall_mem_cons]
  exact ⟨⟨⟨rfl, rfl⟩, JobOf.keepsOff_of_attached_nil rfl⟩, ⟨haway, rfl⟩, ⟨⟨rfl, rfl⟩, hown⟩,
    trivial, trivial, trivial, trivial, fun _ h => absurd h List.not_mem_nil⟩

/-- The accounts of a busy session balance in the end; at first there was spilled
code on disk. -/
theorem balanced_run_busyMoves :
    quietStart = opened "main" "localhost:1" {} .editor "/tmp" (fun drawn => 0xA0 + drawn) ∧
      (∀ move ∈ busyMoves, move.IsFair quietStart) ∧
      (quietStart.run (busyMoves.take 1)).router.files.get? "/tmp/snippet-000000a0"
        = some (.spilled "1 + 1") ∧
      (∃ requests, quietStart.Evolves (quietStart.run busyMoves) requests) ∧
      ∀ requests, quietStart.Evolves (quietStart.run busyMoves) requests →
        (quietStart.run busyMoves).Balanced .editor requests := by
  have hspilled : (quietStart.run (busyMoves.take 1)).router.files.get? "/tmp/snippet-000000a0"
      = some (.spilled "1 + 1") := by decide +kernel
  exact ⟨rfl, isFair_busyMoves, hspilled, balanced_run rfl isFair_busyMoves⟩

end ReplLink.Session
