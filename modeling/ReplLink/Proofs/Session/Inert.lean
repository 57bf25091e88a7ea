import ReplLink.Proofs.Session.Closing

/-!
# A closed session

When somebody who closed a session is done, the session has stopped: it is shut, it
knows no names, nobody waits, and nothing is registered. Nothing that can happen to it
starts it again. Whatever is asked of it fails or finds nothing, bytes that are still fed
to it reach nobody, and all that is left of them is in the log.
-/

namespace ReplLink.Session

open ReplLink.Routing ReplLink.Stream ReplLink.Text

/-- The session is closed and nobody waits for names. -/
structure HasStopped (session : Session) : Prop where
  /-- It is closed. -/
  closed : session.IsClosed
  /-- Both lines are empty. -/
  idle : ∀ list, session.queueOf list = ⟨none, []⟩

/-- The session does nothing but refuse. -/
structure IsInert (session : Session) : Prop where
  /-- It is not connected. -/
  disconnected : session.connected = false
  /-- Nothing is registered. -/
  vacant : session.inFlight = 0
  /-- No names are known. -/
  forgotten : ∀ list, session.names.get list = none
  /-- Sending fails and changes nothing, whatever the namespace is, -/
  send : ∀ path code job, session.send path code job = (session, .error .closed)
  /-- also if a caller waits -/
  call : ∀ path code job, session.call path code job = (session, .error .closed)
  /-- or if the code is the context's own. -/
  eval : ∀ path code, session.eval path code = (session, .error .closed)
  /-- A caller who asks for names is refused at once, and nothing else changes. -/
  askNames : ∀ list, session.askNames list =
    ({ session.settle session.nextTicket (.names (.error .closed)) with
        nextTicket := session.nextTicket + 1 }, session.nextTicket)
  /-- Bytes that come in reach no job and leave lines in the log, -/
  receive : ∀ chunk, ∃ strays, (∀ event ∈ strays, isStray event = true) ∧
    session.receive chunk = ({ session with
      inbox := (session.inbox.receive chunk).2, router := session.router.note strays }, 0)
  /-- and end no query. -/
  feed : ∀ chunk, session.feed chunk = session.receive chunk
  /-- To close it once more ends no job and leaves nothing in the log. -/
  close : session.close =
    ({ session.settle session.nextTicket (.closed 0) with
        inbox := session.inbox.forget, nextTicket := session.nextTicket + 1 },
      session.nextTicket)

section Lines

variable {session : Session}

theorem setQueue_self (session : Session) (list : NameList) :
    session.setQueue list (session.queueOf list) = session := by
  cases list <;> rfl

theorem setQueue_setQueue (session : Session) (list : NameList) (queue later : Queue) :
    (session.setQueue list queue).setQueue list later = session.setQueue list later := by
  cases list <;> rfl

/-- Where nobody waits there is nothing to go on with. -/
theorem resumeList_of_idle {list : NameList} (h : session.queueOf list = ⟨none, []⟩) :
    resumeList list session = session := by
  unfold resumeList
  rw [h]
  dsimp only
  rw [serveList_eq, h, serve, setQueue_setQueue, ← h]
  exact setQueue_self session list

/-- Whoever comes to a list for which nobody waits is served at once, -/
theorem resumeList_stand_eq {list : NameList} (h : session.queueOf list = ⟨none, []⟩)
    {claim : Claim} {after : Session} {queue : Queue}
    (hs : serve list [claim] session = (after, queue)) :
    resumeList list (session.stand list claim) = after.setQueue list queue := by
  have hqueue : (session.stand list claim).queueOf list = ⟨none, [claim]⟩ := by
    rw [stand, queueOf_setQueue_self, h]
    rfl
  have hfree : (session.stand list claim).setQueue list ⟨none, []⟩ = session := by
    rw [stand, setQueue_setQueue, ← h]
    exact setQueue_self session list
  unfold resumeList
  rw [hqueue]
  dsimp only
  rw [serveList_eq, hqueue, hfree, hs]

/-- and unless a query is in flight then, nobody waits for the list. -/
theorem resumeList_stand {list : NameList} (h : session.queueOf list = ⟨none, []⟩)
    {claim : Claim} {after : Session} (hs : serve list [claim] session = (after, ⟨none, []⟩)) :
    resumeList list (session.stand list claim) = after := by
  have hkept : after.queueOf list = ⟨none, []⟩ := by
    have hserved := @queueOf_serve session list list id [claim]
    rw [hs, h] at hserved
    exact hserved
  rw [resumeList_stand_eq h hs, ← hkept]
  exact setQueue_self after list

/-- Where nobody waits for either list, that is all there is to go on with. -/
theorem resume_stand (h : ∀ list, session.queueOf list = ⟨none, []⟩) {list : NameList}
    {claim : Claim} {after : Session} {queue : Queue}
    (hs : serve list [claim] session = (after, queue))
    (ha : ∀ list, after.queueOf list = ⟨none, []⟩) :
    (session.stand list claim).resume = after.setQueue list queue := by
  have hserved := resumeList_stand_eq (h list) hs
  unfold resume
  cases list with
  | base =>
    rw [hserved]
    exact resumeList_of_idle (ha .core)
  | core =>
    have hfirst : (session.stand .core claim).queueOf .base = ⟨none, []⟩ := h .base
    rw [resumeList_of_idle hfirst]
    exact hserved

end Lines

namespace HasStopped

variable {session : Session}

theorem connected (h : session.HasStopped) : session.connected = false :=
  h.closed.shut.disconnected

theorem resume (h : session.HasStopped) : session.resume = session := by
  unfold Session.resume
  rw [resumeList_of_idle (h.idle .base), resumeList_of_idle (h.idle .core)]

/-- What leaves the standing alone and registers nothing starts nothing. -/
theorem congr {after : Session} (h : session.HasStopped) (hs : after.standing = session.standing)
    (he : after.router.roster = .empty) : after.HasStopped where
  closed := h.closed.congr hs he
  idle := fun list => (queueOf_congr hs list).trans (h.idle list)

theorem settle (h : session.HasStopped) (ticket : Nat) (settled : Settled) :
    (session.settle ticket settled).HasStopped where
  closed := h.closed.settle ticket settled
  idle := fun list => (queueOf_settle session list ticket settled).trans (h.idle list)

theorem send (h : session.HasStopped) (path : Namespace) (code : String) (job : Job) :
    session.send path code job = (session, .error .closed) :=
  send_of_disconnected h.connected path code job

theorem call (h : session.HasStopped) (path : Namespace) (code : String) (job : Job) :
    session.call path code job = (session, .error .closed) :=
  call_of_disconnected h.connected path code job

/-- A caller who asks for names is refused. -/
theorem askNames (h : session.HasStopped) (list : NameList) :
    session.askNames list =
      ({ session.settle session.nextTicket (.names (.error .closed)) with
          nextTicket := session.nextTicket + 1 }, session.nextTicket) := by
  let numbered := { session with nextTicket := session.nextTicket + 1 }
  have hstopped : numbered.HasStopped := h.congr rfl h.closed.ended
  have hrefused : serve list [.names session.nextTicket] numbered
      = (numbered.settle session.nextTicket (.names (.error .closed)), ⟨none, []⟩) := by
    rw [serve, (hstopped.closed.vacated list).unknown, hstopped.call]
    rfl
  have hsettled := hstopped.settle session.nextTicket (.names (.error .closed))
  have hall : (numbered.stand list (.names session.nextTicket)).resume
      = numbered.settle session.nextTicket (.names (.error .closed)) := by
    rw [resume_stand hstopped.idle hrefused hsettled.idle, ← hsettled.idle list]
    exact setQueue_self _ list
  exact congrArg (·, session.nextTicket) hall

/-- Bytes that come in reach nobody. -/
theorem receive (h : session.HasStopped) (chunk : Bytes) :
    ∃ strays, (∀ event ∈ strays, isStray event = true) ∧
      session.receive chunk = ({ session with
        inbox := (session.inbox.receive chunk).2, router := session.router.note strays }, 0) := by
  obtain ⟨strays, hstrays, hall⟩ := Router.foldl_accept_of_empty session.context
    (session.inbox.receive chunk).1 h.closed.ended 0
  refine ⟨strays, hstrays, ?_⟩
  rw [receive_eq, hall]

/-- Who wants to empty the first list comes to the second one. -/
theorem vacate_base (h : session.HasStopped) (ticket : Nat) (wasOpen : Bool) :
    session.vacate .base ticket wasOpen = session.stand .core (.close ticket wasOpen) := by
  have hbase : session.names.base = none := (h.closed.vacated .base).unknown
  unfold vacate
  dsimp only
  rw [← hbase]
  rfl

/-- Who wants to empty the second list is done, and no job is ended. -/
theorem vacate_core (h : session.HasStopped) (ticket : Nat) :
    session.vacate .core ticket false = session.settle ticket (.closed 0) := by
  have hcore : session.names.core = none := (h.closed.vacated .core).unknown
  have hnone : (Roster.takeAll session.router.roster).1 = [] := by
    rw [h.closed.ended]
    rfl
  unfold vacate endJobs
  dsimp only
  rw [Router.perform_endAll_of_empty h.closed.ended, hnone, ← hcore]
  exact congrArg (fun router => { session with router }.settle ticket (.closed 0))
    (Router.note_nil session.router)

/-- To shut the session once more only forgets what is buffered. -/
theorem shut (h : session.HasStopped) :
    session.shut = ({ session with inbox := session.inbox.forget }, false) := by
  have hchannel : session.channel = .shut := h.closed.shut.shut
  calc session.shut
      = ({ session with
            channel := .shut, connected := false, inbox := session.inbox.forget },
          decide (session.channel ≠ .shut)) := rfl
    _ = ({ session with
            channel := session.channel, connected := session.connected,
            inbox := session.inbox.forget }, false) := by
      rw [hchannel, h.connected]
      rfl

/-- Who closes the session once more is done at once. -/
theorem close (h : session.HasStopped) :
    session.close =
      ({ session.settle session.nextTicket (.closed 0) with
          inbox := session.inbox.forget, nextTicket := session.nextTicket + 1 },
        session.nextTicket) := by
  let numbered := { session with nextTicket := session.nextTicket + 1 }
  let emptied := { numbered with inbox := numbered.inbox.forget }
  have hnumbered : numbered.HasStopped := h.congr rfl h.closed.ended
  have hemptied : emptied.HasStopped := h.congr rfl h.closed.ended
  have hbase : resumeList .base (emptied.stand .base (.close session.nextTicket false))
      = emptied.stand .core (.close session.nextTicket false) :=
    resumeList_stand (hemptied.idle .base) (by
      rw [← hemptied.vacate_base]
      rfl)
  have hcore : resumeList .core (emptied.stand .core (.close session.nextTicket false))
      = emptied.settle session.nextTicket (.closed 0) :=
    resumeList_stand (hemptied.idle .core) (by
      rw [← hemptied.vacate_core]
      rfl)
  have hall : (emptied.stand .base (.close session.nextTicket false)).resume
      = emptied.settle session.nextTicket (.closed 0) := by
    rw [Session.resume, hbase, hcore]
  unfold Session.close
  dsimp only
  rw [hnumbered.shut]
  exact congrArg (·, session.nextTicket) hall

/-- It stays stopped, whatever the move. -/
theorem act (h : session.HasStopped) (move : Move) : (session.act move).HasStopped := by
  have hreceived (chunk : Bytes) : (session.receive chunk).1.HasStopped := by
    obtain ⟨strays, -, hr⟩ := h.receive chunk
    rw [hr]
    exact h.congr rfl h.closed.ended
  cases move with
  | send path code job => rwa [Session.act, h.send]
  | call path code job => rwa [Session.act, h.call]
  | eval path code => rwa [Session.act, eval, h.call]
  | askNames list =>
    rw [Session.act, h.askNames]
    exact (h.settle session.nextTicket _).congr rfl h.closed.ended
  | expireNames list => rwa [Session.act, expireNames, h.idle]
  | receive chunk => exact hreceived chunk
  | resume => rwa [Session.act, h.resume]
  | feed chunk =>
    have hfed : session.act (.feed chunk) = (session.receive chunk).1.resume := rfl
    rw [hfed, (hreceived chunk).resume]
    exact hreceived chunk
  | hangUp =>
    have hsame : session.hangUp = session := by simp [hangUp, h.connected]
    rwa [Session.act, hsame]
  | readFails cause =>
    have hsame : session.readFails cause = session := by simp [readFails, h.connected]
    rwa [Session.act, hsame]
  | breakWrites =>
    have hsame : session.breakWrites = session := by simp [breakWrites, h.closed.shut.shut]
    rwa [Session.act, hsame]
  | close =>
    rw [Session.act, h.close]
    exact (h.settle session.nextTicket _).congr rfl h.closed.ended
  | allowSpills canSpill => exact h.congr rfl h.closed.ended
  | place attachment => exact h.congr rfl h.closed.ended
  | deleteFile path =>
    rw [Session.act, deleteFile_eq]
    exact h.congr rfl h.closed.ended

theorem run (h : session.HasStopped) (moves : List Move) : (session.run moves).HasStopped := by
  induction moves generalizing session with
  | nil => exact h
  | cons move rest ih => exact ih (h.act move)

/-- What has stopped is inert. -/
theorem isInert (h : session.HasStopped) : session.IsInert where
  disconnected := h.connected
  vacant := by
    rw [inFlight, h.closed.ended]
    rfl
  forgotten := fun list => (h.closed.vacated list).unknown
  send := h.send
  call := h.call
  eval := fun path code => h.call path code session.evaluation
  askNames := h.askNames
  receive := h.receive
  feed := by
    intro chunk
    have hresumed := (h.act (.receive chunk)).resume
    exact congrArg (·, (session.receive chunk).2) hresumed
  close := h.close

end HasStopped

/-- When somebody who closed it is done, a session has stopped. -/
theorem IsTidy.hasStopped {policy : Policy} {session : Session} (h : session.IsTidy policy)
    {ticket count : Nat} (hd : session.endedBy ticket = some count) : session.HasStopped := by
  have hsettled : session.settled.lookup ticket = some (.closed count) := by
    unfold endedBy settledFor at hd
    split at hd
    · next found hl =>
      rw [hl, Option.some.inj hd]
    · exact absurd hd (by simp)
  obtain ⟨front, rest, hsplit, -⟩ := List.lookup_eq_some_iff.mp hsettled
  have hclosed : session.IsClosed := h.orderly.done ticket count (by
    rw [hsplit]
    exact List.mem_append_right _ List.mem_cons_self)
  refine ⟨hclosed, fun list => ?_⟩
  have hfree := (hclosed.vacated list).free
  calc session.queueOf list
      = ⟨(session.queueOf list).holder, (session.queueOf list).line⟩ := rfl
    _ = ⟨none, []⟩ := by rw [hfree, h.served list hfree]

/-- Take any run of a session from its start, in which callers and the interpreter do what
they like. Once somebody who closed the session is done, the session is inert, and it
stays so whatever happens later. The only condition is that the callbacks that run at the
end of the connection register no jobs. They could do so only through the session,
which takes none by then. -/
theorem isInert_run {context address : String} {settings : Settings} {frontEnd : FrontEnd}
    {spillDirectory : String} {draw : Nat → Nat} {start : Session}
    (hs : start = opened context address settings frontEnd spillDirectory draw)
    {moves : List Move} (hm : ∀ move ∈ moves, move.EndsQuietly settings.onClose)
    {ticket count : Nat} (hd : (start.run moves).endedBy ticket = some count)
    (later : List Move) : ((start.run moves).run later).IsInert := by
  have hstart : start.IsTidy settings.onClose :=
    hs ▸ isTidy_opened context address settings frontEnd spillDirectory draw
  exact (((hstart.run hm).hasStopped hd).run later).isInert

/-- A session at its start, which fails its jobs when it is closed. -/
def failingStart : Session :=
  opened "main" "localhost:1" { onClose := .fail } .editor "/tmp" fun drawn => 0xA0 + drawn

/-- A query for names is in flight, and a request whose callback asks the router for its
size when the request fails. The session is closed meanwhile, and then the time of the
query is up. -/
def partingMoves : List Move :=
  [.askNames .core,
    .send .root "(loop)" { JobOf.plain "a" "buffer" "repl" with onFailure := .run [.size] },
    .close,
    .askNames .base,
    .expireNames .core]

theorem endsQuietly_partingMoves : ∀ move ∈ partingMoves, move.EndsQuietly .fail := by
  have hjob : JobOf.EndsQuietly .fail
      { JobOf.plain "a" "buffer" "repl" with onFailure := .run [.size] } := by
    refine .intro (fun _ id job hm => ?_) fun outcome program hc id other hm => ?_
    · exact absurd (List.mem_singleton.mp hm) (by simp)
    · cases outcome with
      | success value => exact absurd hc (by simp [JobOf.callback, JobOf.plain])
      | failure failure =>
        have hprogram : [Command.size] = program := Callback.run.inj hc
        rw [← hprogram] at hm
        exact absurd (List.mem_singleton.mp hm) (by simp)
  simp only [partingMoves, List.forall_mem_cons]
  exact ⟨trivial, hjob, trivial, trivial, trivial, fun _ h => absurd h List.not_mem_nil⟩

/-- Closing the session waits for the query, then ends both jobs, and whatever happens
later, the session is inert. -/
theorem isInert_run_partingMoves :
    failingStart = opened "main" "localhost:1" { onClose := .fail } .editor "/tmp"
        (fun drawn => 0xA0 + drawn) ∧
      (∀ move ∈ partingMoves, move.EndsQuietly .fail) ∧
      (failingStart.run (partingMoves.take 4)).endedBy 2 = none ∧
      (failingStart.run partingMoves).endedBy 2 = some 2 ∧
      ∀ later, ((failingStart.run partingMoves).run later).IsInert := by
  have hwaits : (failingStart.run (partingMoves.take 4)).endedBy 2 = none := by decide +kernel
  have hdone : (failingStart.run partingMoves).endedBy 2 = some 2 := by decide +kernel
  exact ⟨rfl, endsQuietly_partingMoves, hwaits, hdone,
    isInert_run rfl endsQuietly_partingMoves hdone⟩

end ReplLink.Session
