import ReplLink.Proofs.Session.Errands

/-!
# What closing a session waits for

Who closes a session empties the lists of names before any job is ended, and a list is not
free while a query for it is in flight. The query is a request like others: only its
outcome ends it, or the end of its time. So closing is done at once if every query has been
answered, and then the callers of all requests are told the last word of the policy.
Otherwise it waits for the interpreter or for a query's time. Until then no request is
ended and no caller is told anything, not even that the session is about to be closed.

All this is about the lists. Closing also needs the lock under which lines are written, and
there is no such wait here, for a write is a step that is over when the next one begins.
-/

namespace ReplLink.Session

open ReplLink.Routing ReplLink.Stream ReplLink.Text

section Definitions

/-- A query for the names of a list is in flight and has not been answered. -/
def Awaits (session : Session) (list : NameList) (query : Query) : Prop :=
  (session.queueOf list).holder = some query ∧ session.router.wordFor query.waiter = none

/-- No bytes come in with the move, and no time is up. -/
def Move.isSilent : Move → Bool
  | .receive _ => false
  | .feed _ => false
  | .expireNames _ => false
  | _ => true

/-- The move comes to nothing where the session is shut. -/
def Move.needsConnection : Move → Bool
  | .send _ _ _ => true
  | .call _ _ _ => true
  | .eval _ _ => true
  | .hangUp => true
  | .readFails _ => true
  | .breakWrites => true
  | _ => false

/-- All jobs have been ended, and their callers have been told the last word of the policy. -/
structure Dismisses (policy : Policy) (before after : Session) : Prop where
  /-- Nothing is registered. -/
  ended : after.router.roster = .empty
  /-- The callers have been told. -/
  told : ∀ id job waiter, before.router.roster.heldUnder id = some job →
    job.waiter = some waiter → after.router.wordFor waiter = some (Router.lastWord policy)

/-- A list of a session that is shut has been served. -/
structure Serves (policy : Policy) (list : NameList) (before after : Session) : Prop where
  /-- The session is shut. -/
  shut : after.IsShut
  /-- The settings are the same. -/
  settings : after.settings = before.settings
  /-- The list is free. -/
  free : (after.queueOf list).holder = none
  /-- Whoever has another list has it still. -/
  others : ∀ other, other ≠ list → (after.queueOf other).holder = (before.queueOf other).holder
  /-- The router has done nothing, or somebody has been behind both lists and has ended the
  jobs. -/
  fate : after.router = before.router ∨ list = .core ∧ Dismisses policy before after ∧
    ∃ ticket count, (ticket, Settled.closed count) ∈ after.settled

/-- The same jobs are registered, and callers have been told the same. -/
structure EndsNothing (before after : Session) : Prop where
  /-- No job has been ended. -/
  roster : after.router.roster = before.router.roster
  /-- Nobody has been told anything. -/
  words : after.router.words = before.router.words

/-- A session that is shut cannot be closed before a query has been answered. -/
structure IsStalled (policy : Policy) (list : NameList) (query : Query) (session : Session) :
    Prop where
  /-- Closing goes in order. -/
  tidy : session.IsTidy policy
  /-- It is shut. -/
  shut : session.IsShut
  /-- The query awaits an answer. -/
  awaits : session.Awaits list query

/-- The session when somebody who closes it has come to the first list. -/
def leaving (session : Session) : Session :=
  let begun := shut { session with nextTicket := session.nextTicket + 1 }
  begun.1.stand .base (.close session.nextTicket begun.2)

/-- Both lists of a session that is shut have gone on. -/
structure Resumes (policy : Policy) (before after : Session) : Prop where
  /-- The session is shut. -/
  shut : after.IsShut
  /-- Only queries that await an answer keep a list in use. -/
  holder : ∀ list query, (after.queueOf list).holder = some query ↔ before.Awaits list query
  /-- The router has done nothing, or somebody has been behind both lists and has ended the
  jobs. -/
  fate : after.router = before.router ∨ Dismisses policy before after ∧
    ∃ ticket count, (ticket, Settled.closed count) ∈ after.settled

end Definitions

section Serving

variable {policy : Policy} {list : NameList} {before now : Session}

theorem Serves.settle (h : Serves policy list before now) (ticket : Nat) (settled : Settled) :
    Serves policy list before (now.settle ticket settled) where
  shut := ⟨h.shut.disconnected, h.shut.shut⟩
  settings := h.settings
  free := by
    rw [queueOf_settle]
    exact h.free
  others other ho := by
    rw [queueOf_settle]
    exact h.others other ho
  fate := by
    rcases h.fate with hr | ⟨hl, hd, closer, count, hm⟩
    · exact .inl hr
    · exact .inr ⟨hl, ⟨hd.ended, hd.told⟩, closer, count, List.mem_cons_of_mem _ hm⟩

/-- A list is served with any queue that nobody has. -/
theorem Serves.setQueue (h : Serves policy list before now) {queue : Queue}
    (hq : queue.holder = none) : Serves policy list before (now.setQueue list queue) where
  shut := h.shut.setQueue list queue
  settings := by cases list <;> exact h.settings
  free := by
    rw [queueOf_setQueue_self]
    exact hq
  others other ho := by
    rw [queueOf_setQueue_of_ne now ho]
    exact h.others other ho
  fate := by
    have hrouter : (now.setQueue list queue).router = now.router := by cases list <;> rfl
    have hsettled : (now.setQueue list queue).settled = now.settled := by cases list <;> rfl
    rcases h.fate with hr | ⟨hl, hd, closer, count, hm⟩
    · exact .inl (hrouter.trans hr)
    · refine .inr ⟨hl, ⟨hrouter ▸ hd.ended, ?_⟩, closer, count, hsettled ▸ hm⟩
      rw [hrouter]
      exact hd.told

/-- Whoever leaves a line takes no list away from anybody. -/
theorem holder_vacate (session : Session) (list other : NameList) (ticket : Nat)
    (wasOpen : Bool) : ((session.vacate list ticket wasOpen).queueOf other).holder
      = (session.queueOf other).holder := by
  cases list <;> cases other <;> rfl

/-- Whoever comes to the end of the second list ends the jobs, if there are any left. -/
theorem dismisses_vacate (hr : before.router.roster.IsAtRest policy)
    (hp : now.settings.onClose = policy)
    (hf : now.router = before.router ∨ Dismisses policy before now) (ticket : Nat)
    (wasOpen : Bool) : Dismisses policy before (now.vacate .core ticket wasOpen) := by
  let ended := (now.router.perform (.endAll policy)).1
  have hrouter : (now.vacate .core ticket wasOpen).router.roster = ended.roster ∧
      ∀ waiter, (now.vacate .core ticket wasOpen).router.wordFor waiter
        = ended.wordFor waiter := by
    rw [vacate, endJobs, hp]
    exact ⟨rfl, fun _ => rfl⟩
  rcases hf with heq | hd
  · have hended : ended = (before.router.perform (.endAll policy)).1 := by rw [← heq]
    refine ⟨hrouter.1.trans (hended ▸ Router.roster_perform_endAll hr), ?_⟩
    intro id job waiter hj hw
    rw [hrouter.2, hended]
    exact Router.wordFor_perform_endAll hr hj hw
  · have hended : ended = now.router :=
      congrArg Prod.fst (Router.perform_endAll_of_empty hd.ended policy)
    refine ⟨hrouter.1.trans (hended ▸ hd.ended), fun id job waiter hj hw => ?_⟩
    rw [hrouter.2, hended]
    exact hd.told id job waiter hj hw

section

variable (hr : before.router.roster.IsAtRest policy) (hp : before.settings.onClose = policy)

include hr hp

/-- Whoever closes the session is served by leaving the line. -/
theorem Serves.vacate (h : Serves policy list before now) (ticket : Nat) (wasOpen : Bool) :
    Serves policy list before (now.vacate list ticket wasOpen) where
  shut := by cases list <;> exact ⟨h.shut.disconnected, h.shut.shut⟩
  settings := by cases list <;> exact h.settings
  free := (holder_vacate now list list ticket wasOpen).trans h.free
  others other ho := (holder_vacate now list other ticket wasOpen).trans (h.others other ho)
  fate := by
    cases list with
    | base =>
      rcases h.fate with heq | ⟨hl, -⟩
      · exact .inl heq
      · cases hl
    | core =>
      have hpolicy : now.settings.onClose = policy := h.settings ▸ hp
      have hf := h.fate.imp_right fun hd => hd.2.1
      exact .inr ⟨rfl, dismisses_vacate hr hpolicy hf ticket wasOpen, ticket, _,
        List.mem_cons_self⟩

/-- Where nothing is sent any more, everybody in the line is served. -/
theorem Serves.serve (h : Serves policy list before now) (claims : List Claim) :
    Serves policy list before (Session.serve list claims now).1 ∧
      (Session.serve list claims now).2 = ⟨none, []⟩ := by
  induction claims generalizing now with
  | nil => exact ⟨h, rfl⟩
  | cons claim rest ih =>
    cases claim with
    | close ticket wasOpen => exact ih (h.vacate hr hp ticket wasOpen)
    | names ticket =>
      rw [Session.serve, call_of_disconnected h.shut.disconnected]
      split
      · exact ih (h.settle ticket _)
      · exact ih (h.settle ticket _)

/-- A list of a session that is shut is served to the last in its line. -/
theorem serves_serveList (hs : before.IsShut) :
    Serves policy list before (serveList list before) := by
  have hidle : Serves policy list before (before.setQueue list ⟨none, []⟩) :=
    { shut := hs.setQueue list _
      settings := by cases list <;> rfl
      free := by rw [queueOf_setQueue_self]
      others := fun other ho => by rw [queueOf_setQueue_of_ne before ho]
      fate := .inl (by cases list <;> rfl) }
  obtain ⟨hserved, hnone⟩ := hidle.serve hr hp (before.queueOf list).line
  unfold serveList
  dsimp only
  rw [hnone]
  exact hserved.setQueue rfl

/-- The end of a query sets its list free, and the line is served. -/
theorem serves_endQuery (hs : before.IsShut) (query : Query) :
    Serves policy list before (before.endQuery list query) := by
  have hend (names : KnownNames) (result : Except SessionError (List String)) :
      Serves policy list before
        (serveList list ({ before with names }.settle query.ticket (.names result))) := by
    let ended := { before with names }.settle query.ticket (.names result)
    have hshut : ended.IsShut := ⟨hs.disconnected, hs.shut⟩
    have hserved := @serves_serveList policy list ended hr hp hshut
    have hqueue (other : NameList) : ended.queueOf other = before.queueOf other := by
      cases other <;> rfl
    refine ⟨hserved.shut, hserved.settings, hserved.free, fun other ho => ?_, ?_⟩
    · rw [← hqueue]
      exact hserved.others other ho
    · exact hserved.fate.imp_right fun hd => ⟨hd.1, ⟨hd.2.1.ended, hd.2.1.told⟩, hd.2.2⟩
  unfold Session.endQuery
  dsimp only
  split
  · exact hend _ _
  · exact hend _ _

/-- A list goes on unless its query awaits an answer. -/
theorem resumeList_cases (hs : before.IsShut) (list : NameList) :
    (∃ query, before.Awaits list query) ∧ resumeList list before = before ∨
      (∀ query, ¬before.Awaits list query) ∧
        Serves policy list before (resumeList list before) := by
  unfold resumeList
  cases hq : (before.queueOf list).holder with
  | none =>
    refine .inr ⟨fun query ha => ?_, serves_serveList hr hp hs⟩
    cases hq.symm.trans ha.1
  | some query =>
    dsimp only
    cases hw : before.router.wordFor query.waiter with
    | none => exact .inl ⟨⟨query, hq, hw⟩, rfl⟩
    | some word =>
      refine .inr ⟨fun other ha => ?_, serves_endQuery hr hp hs query⟩
      obtain rfl := Option.some.inj (hq.symm.trans ha.1)
      cases hw.symm.trans ha.2

/-- A list stays in use exactly if its query awaits an answer. -/
theorem holder_resumeList (hs : before.IsShut) (list : NameList) (query : Query) :
    ((resumeList list before).queueOf list).holder = some query ↔ before.Awaits list query := by
  rcases resumeList_cases hr hp hs list with ⟨⟨other, ha⟩, hsame⟩ | ⟨hnone, hserved⟩
  · rw [hsame]
    refine ⟨fun hf => ?_, And.left⟩
    obtain rfl := Option.some.inj (ha.1.symm.trans hf)
    exact ha
  · refine ⟨fun hf => ?_, fun ha => absurd ha (hnone query)⟩
    cases hserved.free.symm.trans hf

/-- When both lists go on, the router does nothing as long as nobody gets behind both. -/
theorem resumes_resume (hs : before.IsShut) : Resumes policy before before.resume := by
  let first := resumeList .base before
  have hfirst : first.IsShut ∧ first.settings = before.settings ∧ first.router = before.router ∧
      (first.queueOf .core).holder = (before.queueOf .core).holder := by
    rcases resumeList_cases hr hp hs .base with ⟨-, hsame⟩ | ⟨-, hserved⟩
    · have hfirst : first = before := hsame
      rw [hfirst]
      exact ⟨hs, rfl, rfl, rfl⟩
    · have hrouter : first.router = before.router := by
        rcases hserved.fate with heq | ⟨hl, -⟩
        · exact heq
        · cases hl
      exact ⟨hserved.shut, hserved.settings, hrouter, hserved.others .core (by simp)⟩
  obtain ⟨hshut, hsettings, hrouter, hcore⟩ := hfirst
  have hrest : first.router.roster.IsAtRest policy := hrouter ▸ hr
  have hpolicy : first.settings.onClose = policy := hsettings ▸ hp
  have hbase : before.resume.baseQueue = first.baseQueue := baseQueue_resumeList first
  have hholder (list : NameList) (query : Query) :
      (before.resume.queueOf list).holder = some query ↔ before.Awaits list query := by
    cases list with
    | base =>
      rw [queueOf, hbase]
      exact holder_resumeList hr hp hs .base query
    | core =>
      have hsecond := holder_resumeList hrest hpolicy hshut .core query
      rwa [Awaits, hcore, hrouter] at hsecond
  rcases resumeList_cases hrest hpolicy hshut .core with ⟨-, hsame⟩ | ⟨-, hserved⟩
  · have hall : before.resume = first := hsame
    exact ⟨hall ▸ hshut, hholder, .inl (hall ▸ hrouter)⟩
  · refine ⟨hserved.shut, hholder, ?_⟩
    rcases hserved.fate with heq | ⟨-, hd, hdone⟩
    · exact .inl (heq.trans hrouter)
    · exact .inr ⟨⟨hd.ended, hrouter ▸ hd.told⟩, hdone⟩

end

end Serving

section Waiting

variable {policy : Policy} {list : NameList} {query : Query} {session : Session}

theorem router_stand (session : Session) (list : NameList) (claim : Claim) :
    (session.stand list claim).router = session.router := by
  cases list <;> rfl

/-- Nothing is sent by a session that is shut, and nobody notices any more that the
connection is gone. -/
theorem IsShut.act_eq (h : session.IsShut) {move : Move} (hm : move.needsConnection = true) :
    session.act move = session := by
  have hdisconnected := h.disconnected
  cases move with
  | send path code job => rw [act, send_of_disconnected hdisconnected]
  | call path code job => rw [act, call_of_disconnected hdisconnected]
  | eval path code => rw [act, eval, call_of_disconnected hdisconnected]
  | hangUp => simp [act, hangUp, hdisconnected]
  | readFails cause => simp [act, readFails, hdisconnected]
  | breakWrites => simp [act, breakWrites, h.shut]
  | _ => cases hm

/-- Standing in line does not open a session that is shut. -/
theorem IsShut.stand (h : session.IsShut) (list : NameList) (claim : Claim) :
    (session.stand list claim).IsShut :=
  h.setQueue list _

/-- A query is waited for as long as its list and the words that were told are the same. -/
theorem Awaits.congr {after : Session} (h : session.Awaits list query)
    (hq : (after.queueOf list).holder = (session.queueOf list).holder)
    (hw : after.router.words = session.router.words) : after.Awaits list query :=
  ⟨hq.trans h.1, by rw [Router.wordFor, hw]; exact h.2⟩

/-- A caller comes to a list of a session that is shut. -/
theorem IsOrderly.asking (h : session.IsOrderly policy) (hs : session.IsShut) (list : NameList) :
    IsOrderly policy ({ session with nextTicket := session.nextTicket + 1 }.stand list
        (.names session.nextTicket)) ∧
      IsShut ({ session with nextTicket := session.nextTicket + 1 }.stand list
        (.names session.nextTicket)) := by
  have hnumbered : { session with nextTicket := session.nextTicket + 1 }.IsOrderly policy :=
    h.congr rfl h.rest IsClosed.ended
  have hshut : { session with nextTicket := session.nextTicket + 1 }.IsShut := hs.congr rfl
  exact ⟨hnumbered.stand fun _ _ he => absurd he (by simp), hshut.stand list _⟩

/-- To begin closing shuts the session and leaves everything in order. -/
theorem IsOrderly.leaving (h : session.IsOrderly policy) :
    session.leaving.IsOrderly policy ∧ session.leaving.IsShut := by
  have hnumbered : { session with nextTicket := session.nextTicket + 1 }.IsOrderly policy :=
    h.congr rfl h.rest IsClosed.ended
  obtain ⟨hordered, hshut⟩ := hnumbered.shut
  have hmay : MayEmpty _ .base := hshut
  exact ⟨hordered.stand fun _ _ _ => hmay, hshut.stand .base _⟩

/-- To begin closing leaves both lists and the router alone. -/
theorem awaits_leaving : session.leaving.Awaits list query ↔ session.Awaits list query := by
  have hholder : (session.leaving.queueOf list).holder = (session.queueOf list).holder := by
    cases list <;> rfl
  rw [Awaits, hholder]
  exact Iff.rfl

/-- As long as a query awaits an answer, nobody gets behind both lists. -/
theorem isStalled_resume (ho : session.IsOrderly policy) (hs : session.IsShut)
    (ha : session.Awaits list query) :
    session.resume.IsStalled policy list query ∧ session.EndsNothing session.resume := by
  have hresumed := resumes_resume ho.rest ho.setting hs
  have hholder := (hresumed.holder list query).mpr ha
  have hrouter : session.resume.router = session.router := by
    rcases hresumed.fate with heq | ⟨-, ticket, count, hm⟩
    · exact heq
    · -- Where somebody is done with closing, no list is in use.
      have hclosed := ho.resume.orderly.done ticket count hm
      cases hholder.symm.trans (hclosed.vacated list).free
  exact ⟨⟨ho.resume, hresumed.shut, hholder, hrouter ▸ ha.2⟩, by rw [hrouter], by rw [hrouter]⟩

/-- What leaves the lists, the jobs and the words alone does not let closing go on. -/
theorem IsStalled.congr {after : Session} (h : session.IsStalled policy list query)
    (hs : after.standing = session.standing)
    (hr : after.router.roster = session.router.roster)
    (hw : after.router.words = session.router.words) :
    after.IsStalled policy list query ∧ session.EndsNothing after := by
  have hordered : after.IsOrderly policy := h.tidy.orderly.congr hs
    (hr ▸ h.tidy.orderly.rest) fun hc => hr.trans hc.ended
  have hholder : (after.queueOf list).holder = (session.queueOf list).holder := by
    rw [queueOf_congr hs]
  exact ⟨⟨h.tidy.congr (queueOf_congr hs) hordered, h.shut.congr hs, h.awaits.congr hholder hw⟩,
    hr, hw⟩

/-- Only bytes or a time that is up bring the query to an end. -/
theorem IsStalled.act (h : session.IsStalled policy list query) {move : Move}
    (hm : move.isSilent = true) :
    (session.act move).IsStalled policy list query ∧ session.EndsNothing (session.act move) := by
  have hsame : session.IsStalled policy list query ∧ session.EndsNothing session := ⟨h, rfl, rfl⟩
  cases move with
  | send path code job => rwa [h.shut.act_eq rfl]
  | call path code job => rwa [h.shut.act_eq rfl]
  | eval path code => rwa [h.shut.act_eq rfl]
  | askNames wanted =>
    let come := { session with nextTicket := session.nextTicket + 1 }
    let claim := Claim.names session.nextTicket
    obtain ⟨hordered, hshut⟩ := h.tidy.orderly.asking h.shut wanted
    have hawaits : (come.stand wanted claim).Awaits list query := by
      refine h.awaits.congr ?_ (by rw [router_stand])
      rw [holder_stand]
      cases list <;> rfl
    obtain ⟨hstalled, hends⟩ := isStalled_resume hordered hshut hawaits
    refine ⟨hstalled, hends.roster.trans ?_, hends.words.trans ?_⟩
    · rw [router_stand]
    · rw [router_stand]
  | expireNames list => cases hm
  | receive chunk => cases hm
  | resume => exact isStalled_resume h.tidy.orderly h.shut h.awaits
  | feed chunk => cases hm
  | hangUp => rwa [h.shut.act_eq rfl]
  | readFails cause => rwa [h.shut.act_eq rfl]
  | breakWrites => rwa [h.shut.act_eq rfl]
  | close =>
    obtain ⟨hordered, hshut⟩ := h.tidy.orderly.leaving
    obtain ⟨hstalled, hends⟩ :=
      isStalled_resume hordered hshut (awaits_leaving.mpr h.awaits)
    exact ⟨hstalled, hends.roster, hends.words⟩
  | allowSpills canSpill => exact h.congr rfl rfl rfl
  | place attachment => exact h.congr rfl rfl rfl
  | deleteFile path =>
    rw [Session.act, deleteFile_eq]
    exact h.congr rfl rfl rfl

/-- So it is while nothing but silent moves is made. -/
theorem IsStalled.run (h : session.IsStalled policy list query) {moves : List Move}
    (hm : ∀ move ∈ moves, move.isSilent = true) :
    (session.run moves).IsStalled policy list query ∧ session.EndsNothing (session.run moves) := by
  induction moves generalizing session with
  | nil => exact ⟨h, rfl, rfl⟩
  | cons move rest ih =>
    obtain ⟨hfirst, hrest⟩ := List.forall_mem_cons.mp hm
    obtain ⟨hstalled, hends⟩ := h.act hfirst
    obtain ⟨hlast, hmore⟩ := ih hstalled hrest
    exact ⟨hlast, hmore.roster.trans hends.roster, hmore.words.trans hends.words⟩

/-- Nobody is done with closing then. -/
theorem IsStalled.endedBy_eq_none (h : session.IsStalled policy list query) (ticket : Nat) :
    session.endedBy ticket = none := by
  cases hd : session.endedBy ticket with
  | none => rfl
  | some count =>
    have hused := h.awaits.1
    rw [(h.tidy.hasStopped hd).idle list] at hused
    cases hused

end Waiting

section Done

variable {policy : Policy} {session : Session}

/-- A session that is shut stays so when both lists go on. -/
theorem IsShut.resume (hs : session.IsShut) (h : session.IsOrderly policy) :
    session.resume.IsShut :=
  (resumes_resume h.rest h.setting hs).shut

/-- A session that is shut stays shut and tidy, whatever jobs it is given: it takes none. -/
theorem IsTidy.act_of_isShut (h : session.IsTidy policy) (hs : session.IsShut) (move : Move) :
    (session.act move).IsTidy policy ∧ (session.act move).IsShut := by
  have hsame : session.IsTidy policy ∧ session.IsShut := ⟨h, hs⟩
  have hreceived (chunk : Bytes) : (session.receive chunk).1.IsShut :=
    hs.congr (standing_receive session chunk)
  cases move with
  | send path code job => rwa [hs.act_eq rfl]
  | call path code job => rwa [hs.act_eq rfl]
  | eval path code => rwa [hs.act_eq rfl]
  | askNames list =>
    obtain ⟨hordered, hshut⟩ := h.orderly.asking hs list
    exact ⟨hordered.resume, hshut.resume hordered⟩
  | expireNames list =>
    refine ⟨h.expireNames list, ?_⟩
    rw [Session.act, Session.expireNames]
    split
    · next query hq =>
      have hended : Serves policy list session (session.endQuery list query) :=
        serves_endQuery h.orderly.rest h.orderly.setting hs query
      exact hended.shut.resume (h.orderly.endQuery hq).1
    · exact hs
  | receive chunk => exact ⟨h.receive chunk, hreceived chunk⟩
  | resume => exact ⟨h.orderly.resume, hs.resume h.orderly⟩
  | feed chunk =>
    have hordered := h.orderly.receive chunk
    exact ⟨hordered.resume, (hreceived chunk).resume hordered⟩
  | hangUp => rwa [hs.act_eq rfl]
  | readFails cause => rwa [hs.act_eq rfl]
  | breakWrites => rwa [hs.act_eq rfl]
  | close =>
    obtain ⟨hordered, hshut⟩ := h.orderly.leaving
    exact ⟨hordered.resume, hshut.resume hordered⟩
  | allowSpills canSpill =>
    exact ⟨h.withFiles session.router.files canSpill, hs.disconnected, hs.shut⟩
  | place attachment =>
    exact ⟨h.withFiles (session.router.files.lay attachment) session.canSpill, hs.disconnected,
      hs.shut⟩
  | deleteFile path =>
    rw [Session.act, deleteFile_eq]
    exact ⟨h.withFiles (session.router.files.delete path) session.canSpill, hs.disconnected,
      hs.shut⟩

/-- Any moves leave a session that is shut so, and tidy. -/
theorem IsTidy.run_of_isShut (h : session.IsTidy policy) (hs : session.IsShut)
    (moves : List Move) : (session.run moves).IsTidy policy ∧ (session.run moves).IsShut := by
  induction moves generalizing session with
  | nil => exact ⟨h, hs⟩
  | cons move rest ih =>
    obtain ⟨htidy, hshut⟩ := h.act_of_isShut hs move
    exact ih htidy hshut

/-- A list is free when the time of its query is up, and a free list stays so. -/
theorem holder_expireNames (h : session.IsTidy policy) (hs : session.IsShut)
    {list other : NameList} (ho : other = list ∨ (session.queueOf other).holder = none) :
    ((session.expireNames list).queueOf other).holder = none := by
  unfold Session.expireNames
  cases hq : (session.queueOf list).holder with
  | none =>
    rcases ho with rfl | hfree
    · exact hq
    · exact hfree
  | some query =>
    dsimp only
    have hended : Serves policy list session (session.endQuery list query) :=
      serves_endQuery h.orderly.rest h.orderly.setting hs query
    have hordered := (h.orderly.endQuery hq).1
    have hresumed := resumes_resume hordered.rest hordered.setting hended.shut
    have hfree : ((session.endQuery list query).queueOf other).holder = none := by
      by_cases he : other = list
      · rw [he, hended.free]
      · rw [hended.others other he]
        exact ho.resolve_left he
    cases hstill : ((session.endQuery list query).resume.queueOf other).holder with
    | none => rfl
    | some found => cases hfree.symm.trans ((hresumed.holder other found).mp hstill).1

/-- So both are free when the times of both queries are up. -/
theorem holder_expireBoth (h : session.IsTidy policy) (hs : session.IsShut) (list : NameList) :
    ((session.run [.expireNames .base, .expireNames .core]).queueOf list).holder = none := by
  obtain ⟨htidy, hshut⟩ := h.act_of_isShut hs (.expireNames .base)
  refine holder_expireNames htidy hshut ?_
  cases list with
  | base => exact .inr (holder_expireNames h hs (.inl rfl))
  | core => exact .inl rfl

/-- If the session is closed then, the jobs have been ended or there were none. -/
theorem Resumes.dismisses {before after : Session} (h : Resumes policy before after)
    (hc : after.IsClosed) : Dismisses policy before after := by
  rcases h.fate with heq | ⟨hd, -⟩
  · refine ⟨hc.ended, fun id job waiter hj _ => ?_⟩
    rw [← heq, hc.ended] at hj
    exact nomatch hj
  · exact hd

/-- Who has come to close a session is done exactly when both lists are free. -/
theorem IsTidy.endedBy_iff (h : session.IsTidy policy) (he : session.Enrolled) {ticket : Nat}
    (hm : ⟨ticket, true⟩ ∈ session.errands) :
    (session.endedBy ticket).isSome ↔ ∀ list, (session.queueOf list).holder = none := by
  constructor
  · intro hd list
    obtain ⟨count, hcount⟩ := Option.isSome_iff_exists.mp hd
    rw [(h.hasStopped hcount).idle list]
  · intro hfree
    have hidle (list : NameList) : session.queueOf list = ⟨none, []⟩ :=
      calc session.queueOf list
          = ⟨(session.queueOf list).holder, (session.queueOf list).line⟩ := rfl
        _ = ⟨none, []⟩ := by rw [hfree list, h.served list (hfree list)]
    obtain ⟨settled, hs, hsame⟩ := he.settledFor hidle hm
    cases settled with
    | names result => cases hsame
    | closed count =>
      rw [endedBy, hs]
      rfl

end Done

/-- Take any run of a session from its start, let somebody close the session, and let
whatever happen then. Closing is done as soon as no query for names is in flight, and not
before, at the latest when the times of both queries are up. If every query has been
answered when it begins, it is done at once: nothing is registered then, and the callers
of all requests have been told the last word of the policy. If a query awaits an answer,
then as long as no bytes come in and no time is up, that query stays in flight, closing
is not done, no request is ended and no caller is told anything. There are two conditions.
The callbacks that run at the end of the connection register no jobs; they could do
so only through the session, which takes none by then. And no write is under way when the
session is closed, as is always so between two moves: one that the interpreter does not
take would hold up closing as a query does. -/
theorem close_awaits_queries {context address : String} {settings : Settings}
    {frontEnd : FrontEnd} {spillDirectory : String} {draw : Nat → Nat} {start now : Session}
    {before : List Move}
    (hs : start = opened context address settings frontEnd spillDirectory draw)
    (hb : ∀ move ∈ before, move.EndsQuietly settings.onClose) (hn : now = start.run before) :
    (∀ later, ((now.close.1.run later).endedBy now.close.2).isSome ↔
        ∀ list, ((now.close.1.run later).queueOf list).holder = none) ∧
      (∀ later, (((now.close.1.run later).run [.expireNames .base, .expireNames .core]).endedBy
        now.close.2).isSome) ∧
      ((∀ list query, ¬now.Awaits list query) →
        (now.close.1.endedBy now.close.2).isSome ∧ now.Dismisses settings.onClose now.close.1) ∧
      ∀ list query, now.Awaits list query →
        ∀ later : List Move, (∀ move ∈ later, move.isSilent = true) →
          (now.close.1.run later).endedBy now.close.2 = none ∧
            (now.close.1.run later).Awaits list query ∧
            now.EndsNothing (now.close.1.run later) := by
  have htidy : now.IsTidy settings.onClose := by
    rw [hn, hs]
    exact (isTidy_opened context address settings frontEnd spillDirectory draw).run hb
  have henrolled : now.Enrolled := by
    rw [hn, hs]
    exact (enrolled_opened context address settings frontEnd spillDirectory draw).run before
  obtain ⟨hordered, hshut⟩ := htidy.orderly.leaving
  have hresumed := resumes_resume hordered.rest hordered.setting hshut
  have hcome : ⟨now.nextTicket, true⟩ ∈ now.close.1.errands :=
    (keeps_act now .close).errands.mem_iff.mpr (List.mem_append_left _ List.mem_cons_self)
  have hdone (later : List Move) : ((now.close.1.run later).endedBy now.close.2).isSome ↔
      ∀ list, ((now.close.1.run later).queueOf list).holder = none :=
    (hordered.resume.run_of_isShut hresumed.shut later).1.endedBy_iff
      ((henrolled.act .close).run later) (mem_errands_run hcome later)
  refine ⟨hdone, fun later => ?_, fun hnone => ?_, fun list query ha later hl => ?_⟩
  · obtain ⟨htidy, hshut⟩ := hordered.resume.run_of_isShut hresumed.shut later
    have hall : now.close.1.run (later ++ [.expireNames .base, .expireNames .core])
        = (now.close.1.run later).run [.expireNames .base, .expireNames .core] :=
      List.foldl_append
    rw [← hall, hdone, hall]
    exact holder_expireBoth htidy hshut
  · have hfree (list : NameList) : (now.close.1.queueOf list).holder = none := by
      cases hq : (now.close.1.queueOf list).holder with
      | none => rfl
      | some query =>
        exact absurd (awaits_leaving.mp ((hresumed.holder list query).mp hq)) (hnone list query)
    have hended := (hdone []).mpr hfree
    obtain ⟨count, hcount⟩ := Option.isSome_iff_exists.mp hended
    have hdismissed := hresumed.dismisses (hordered.resume.hasStopped hcount).closed
    exact ⟨hended, hdismissed.ended, hdismissed.told⟩
  · obtain ⟨hstalled, hends⟩ := isStalled_resume hordered hshut (awaits_leaving.mpr ha)
    obtain ⟨hstill, hmore⟩ := hstalled.run hl
    exact ⟨hstill.endedBy_eq_none _, hstill.awaits, hmore.roster.trans hends.roster,
      hmore.words.trans hends.words⟩

/-- A query for names is in flight, and a caller waits for something that never ends. -/
def unansweredMoves : List Move := [.askNames .core, .eval .root "loop()"]

/-- The query has been answered. -/
def answeredMoves : List Move :=
  unansweredMoves
    ++ [.receive (Utf8.encode "(response-done \"000000a0\" (\"Int\" \"Bool\"))".toList)]

theorem endsQuietly_unansweredMoves : ∀ move ∈ unansweredMoves, move.EndsQuietly .fail := by
  simp [unansweredMoves, Move.EndsQuietly]

/-- After these moves the query awaits an answer. -/
theorem awaits_unansweredMoves : (failingStart.run unansweredMoves).Awaits .core ⟨0, 1⟩ := by
  have hholder : ((failingStart.run unansweredMoves).queueOf .core).holder = some ⟨0, 1⟩ := by
    decide +kernel
  have hword : (failingStart.run unansweredMoves).router.wordFor 1 = none := by decide +kernel
  exact ⟨hholder, hword⟩

/-- As long as the query is not answered, closing is not done, and the caller is left
waiting. Behind the answer it is done at once, and the caller learns that the connection
is closed. -/
theorem close_awaits_queries_answeredMoves :
    (∀ move ∈ answeredMoves, move.EndsQuietly .fail) ∧
      (∀ later : List Move, (∀ move ∈ later, move.isSilent = true) →
        ((failingStart.run unansweredMoves).close.1.run later).endedBy 3 = none ∧
          ((failingStart.run unansweredMoves).close.1.run later).router.wordFor 2 = none) ∧
      ((failingStart.run answeredMoves).close.1.endedBy 3).isSome ∧
      (failingStart.run answeredMoves).close.1.router.wordFor 2
        = some (some (.failure ⟨"connection closed", []⟩)) := by
  have hanswered : ∀ move ∈ answeredMoves, move.EndsQuietly .fail := by
    simp [answeredMoves, unansweredMoves, Move.EndsQuietly]
  have hnumber : (failingStart.run unansweredMoves).close.2 = 3 := by decide +kernel
  have hsame : (failingStart.run answeredMoves).close.2 = 3 := by decide +kernel
  have hwaits := (@close_awaits_queries _ _ _ _ _ _ failingStart _ unansweredMoves rfl
    endsQuietly_unansweredMoves rfl).2.2.2 .core ⟨0, 1⟩ awaits_unansweredMoves
  have hcloses := (@close_awaits_queries _ _ _ _ _ _ failingStart _ answeredMoves rfl
    hanswered rfl).2.2.1
  refine ⟨hanswered, fun later hl => ?_, ?_⟩
  · obtain ⟨hdone, -, hends⟩ := hwaits later hl
    refine ⟨hnumber ▸ hdone, ?_⟩
    rw [Router.wordFor, hends.words]
    decide +kernel
  · have hbase : ((failingStart.run answeredMoves).queueOf .base).holder = none := by
      decide +kernel
    have hcore : ((failingStart.run answeredMoves).queueOf .core).holder = some ⟨0, 1⟩ := by
      decide +kernel
    have hword : ((failingStart.run answeredMoves).router.wordFor 1).isSome = true := by
      decide +kernel
    have hcaller : ((failingStart.run answeredMoves).router.roster.heldUnder "000000a1").map
        (·.waiter) = some (some 2) := by
      decide +kernel
    obtain ⟨hdone, hdismissed⟩ := hcloses fun list query ha => by
      cases list with
      | base => cases hbase.symm.trans ha.1
      | core =>
        obtain rfl := Option.some.inj (hcore.symm.trans ha.1)
        rw [ha.2] at hword
        cases hword
    obtain ⟨job, hj, hw⟩ := Option.map_eq_some_iff.mp hcaller
    exact ⟨hsame ▸ hdone, hdismissed.told _ job 2 hj hw⟩

/-- So closing does not come to an end by itself in every session. -/
theorem not_closed_by_silent_moves :
    ¬∀ before : List Move, ∃ later : List Move, (∀ move ∈ later, move.isSilent = true) ∧
      (((failingStart.run before).close.1.run later).endedBy
        (failingStart.run before).close.2).isSome := by
  intro h
  obtain ⟨later, hl, hdone⟩ := h unansweredMoves
  have htidy : (failingStart.run unansweredMoves).IsTidy .fail :=
    (isTidy_opened "main" "localhost:1" { onClose := .fail } .editor "/tmp"
      fun drawn => 0xA0 + drawn).run endsQuietly_unansweredMoves
  obtain ⟨hordered, hshut⟩ := htidy.orderly.leaving
  have hstalled := (isStalled_resume hordered hshut
    (awaits_leaving.mpr awaits_unansweredMoves)).1
  have hstill := (hstalled.run hl).1
  have hclose : (failingStart.run unansweredMoves).leaving.resume
      = (failingStart.run unansweredMoves).close.1 := rfl
  rw [hclose] at hstill
  rw [hstill.endedBy_eq_none] at hdone
  cases hdone

end ReplLink.Session
