import ReplLink.Proofs.Session.Chronicle
import ReplLink.Proofs.Session.Renumbering

/-!
# A session and its record agree

Whatever becomes of a session, what its record tells is so in the session: which names are
known, whose query is under way and what it has heard, who stands in line, which lines were
written and what callers have got. And each deed has come where it may. So what follows
from a coherent record is so of the session.
-/

namespace ReplLink.Session

open ReplLink.Routing ReplLink.Stream ReplLink.Text

section Definitions

/-- The caller of a claim to names. -/
def Claim.caller? : Claim → Option Nat
  | .names ticket => some ticket
  | .close _ _ => none

/-- All that callers of a list can see of it. -/
structure Shelf where
  /-- The names, if they are known. -/
  names : Option (List String)
  /-- The caller whose query is under way. -/
  asker : Option Nat
  /-- The callers in line. -/
  line : List Nat

/-- A list as it is in the session. -/
def shelf (session : Session) (list : NameList) : Shelf where
  names := session.names.get list
  asker := (session.queueOf list).holder.map (·.ticket)
  line := (session.queueOf list).line.filterMap Claim.caller?

/-- A list as it is on the record. -/
def Shelf.recorded (list : NameList) (deeds : List Deed) : Shelf where
  names := content list deeds
  asker := (underway list deeds).map (·.ticket)
  line := lined list deeds

/-- The connection is gone and nobody waits for names. -/
structure IsOver (session : Session) : Prop where
  /-- Nothing can be sent. -/
  disconnected : session.connected = false
  /-- No query is in flight. -/
  free : ∀ list, (session.queueOf list).holder = none

/-- What waits for responses is what the record tells. -/
structure Live (deeds : List Deed) (session : Session) : Prop where
  /-- The requests that wait are in order. -/
  outstanding : session.Outstanding
  /-- The queries in flight are the ones under way, and have been heard of what the record
  tells. -/
  awaited : ∀ list query, (session.queueOf list).holder = some query →
    ∃ inquiry, underway list deeds = some inquiry ∧
      session.router.HasHeard inquiry.sent.id query.waiter inquiry.reply
  /-- Lines to which no response has arrived are waited for. -/
  registered : ∀ id ∈ unanswered deeds, ∃ job, session.router.roster.heldUnder id = some job

/-- A session and its record agree. -/
structure Recorded (deeds : List Deed) (session : Session) : Prop where
  /-- Each deed came where it may. -/
  coherent : Coherent deeds
  /-- The lists are as the record tells. -/
  shelved : ∀ list, session.shelf list = Shelf.recorded list deeds
  /-- The lines that were written are on the record. -/
  written : session.written = (deeds.filterMap Deed.line?).reverse
  /-- Callers have got what the record tells. -/
  settled : ∀ list pair, pair ∈ results list deeds →
    (pair.1, Settled.names pair.2) ∈ session.settled
  /-- A list is emptied when the connection is gone. -/
  emptied : ∀ list, .emptied list ∈ deeds → session.connected = false
  /-- So it is when somebody who closes the session stands in a line, and before the
  second list comes the first one. -/
  closing : ∀ list ticket wasOpen, .close ticket wasOpen ∈ (session.queueOf list).line →
    session.connected = false ∧ (list = .core → (session.queueOf .base).holder = none)
  /-- Queries in flight are under way, and afterwards there are none. -/
  live : session.IsOver ∨ session.Live deeds

end Definitions

section Writing

/-- What sending comes to for those who wait: a job of the same caller is registered under
a free id and its line is written, or nothing happens. -/
structure Writes (before : Session) (waiter : Option Nat) (after : Session)
    (sent : Option Sent) : Prop where
  /-- The lists and the connection are left alone. -/
  standing : after.standing = before.standing
  /-- Nobody is told anything. -/
  words : after.router.words = before.router.words
  /-- The line is written. -/
  written : after.written = before.written ++ sent.toList
  /-- Its job is registered. -/
  entered : ∀ line, sent = some line → before.router.roster.get? line.id = none ∧
    ∃ job : Job, job.waiter = waiter ∧
      after.router.roster = before.router.roster.put line.id (.held job)
  /-- Without a line, nothing is registered. -/
  refused : sent = none → after.router.roster = before.router.roster

/-- A request that is taken back leaves no line. -/
theorem written_takeBack (session : Session) (id : String) (error : SessionError) :
    (session.takeBack id error).written = session.written := by
  unfold takeBack
  dsimp only
  split <;> rfl

/-- Sending writes its line or none. -/
theorem written_send (session : Session) (path : Namespace) (code : String) (job : Job) :
    (session.send path code job).1.written
      = session.written ++ (session.send path code job).2.toOption.toList := by
  rcases send_cases session path code job with ⟨error, hs⟩ | ⟨line, hs⟩
  · rw [hs]
    exact (List.append_nil _).symm
  · rw [hs, write]
    split
    · rfl
    · exact (written_takeBack _ _ _).trans (List.append_nil _).symm
    · exact (written_takeBack _ _ _).trans (List.append_nil _).symm

/-- Sending registers the job with the caller that it has, and writes its line, or does neither.
-/
theorem writes_send (session : Session) (path : Namespace) (code : String) (job : Job) :
    Writes session job.waiter (session.send path code job).1
      (session.send path code job).2.toOption where
  standing := standing_send session path code job
  words := congrArg Callers.words (registers_send session path code job).callers
  written := written_send session path code job
  entered := by
    intro line hline
    rcases (registers_send session path code job).roster with
      ⟨sent, registered, hok, hfree, -, -, hwaiter, hroster⟩ | ⟨⟨error, herror⟩, -⟩
    · rw [hok] at hline
      obtain rfl := Option.some.inj hline
      exact ⟨hfree, registered, hwaiter, hroster⟩
    · rw [herror] at hline
      exact absurd hline (by simp [Except.toOption])
  refused := by
    intro hnone
    rcases (registers_send session path code job).roster with
      ⟨sent, registered, hok, -⟩ | ⟨-, hroster⟩
    · rw [hok] at hnone
      exact absurd hnone (by simp [Except.toOption])
    · exact hroster

/-- A call registers its job with the next caller, or nothing. -/
theorem writes_call (session : Session) (path : Namespace) (code : String) (job : Job) :
    Writes session (some session.nextTicket) (session.call path code job).1
      ((session.call path code job).2.map Prod.fst).toOption := by
  have hsend := writes_send session path code { job with waiter := some session.nextTicket }
  unfold call
  dsimp only
  split
  · next after sent hs =>
    rw [hs] at hsend
    exact ⟨hsend.standing, hsend.words, hsend.written, hsend.entered, hsend.refused⟩
  · next after error hs =>
    rw [hs] at hsend
    exact ⟨hsend.standing, hsend.words, hsend.written, hsend.entered, hsend.refused⟩

/-- The caller of a request has the next number. -/
theorem waiter_of_call {session after : Session} {path : Namespace} {code : String} {job : Job}
    {sent : Sent} {waiter : Nat}
    (h : session.call path code job = (after, .ok (sent, waiter))) :
    waiter = session.nextTicket := by
  unfold call at h
  dsimp only at h
  split at h
  · exact ((Prod.mk.inj (Except.ok.inj (Prod.mk.inj h).2)).2).symm
  · exact absurd (Prod.mk.inj h).2 (by simp)

end Writing

section Shelves

variable {start now after : Session} {deeds : List Deed} {list other : NameList}

/-- The connection does not depend on who waits for names. -/
theorem connected_setQueue (session : Session) (list : NameList) (queue : Queue) :
    (session.setQueue list queue).connected = session.connected := by
  cases list <;> rfl

/-- Nor do the lines that were written. -/
theorem written_setQueue (session : Session) (list : NameList) (queue : Queue) :
    (session.setQueue list queue).written = session.written := by
  cases list <;> rfl

/-- Nor does what callers have got. -/
theorem settled_setQueue (session : Session) (list : NameList) (queue : Queue) :
    (session.setQueue list queue).settled = session.settled := by
  cases list <;> rfl

/-- Nor does the router. -/
theorem router_setQueue (session : Session) (list : NameList) (queue : Queue) :
    (session.setQueue list queue).router = session.router := by
  cases list <;> rfl

/-- Nor does the next number. -/
theorem nextTicket_setQueue (session : Session) (list : NameList) (queue : Queue) :
    (session.setQueue list queue).nextTicket = session.nextTicket := by
  cases list <;> rfl

/-- Those who want names are among the callers of a session. -/
theorem queueOf_of_callers (h : after.callers = now.callers) (list : NameList) :
    after.queueOf list = now.queueOf list := by
  cases list with
  | base => exact congrArg Callers.base h
  | core => exact congrArg Callers.core h

/-- A list is as it was when its names and those who want them are. -/
theorem shelf_congr (hn : after.names.get list = now.names.get list)
    (hq : after.queueOf list = now.queueOf list) : after.shelf list = now.shelf list := by
  rw [shelf, shelf, hn, hq]

/-- All that callers see of a list belongs to the standing of the session. -/
theorem shelf_of_standing (h : after.standing = now.standing) (list : NameList) :
    after.shelf list = now.shelf list := by
  have hnames : after.names = now.names := congrArg Standing.names h
  exact shelf_congr (by rw [hnames]) (queueOf_congr h list)

/-- What callers see of a list that has got another queue. -/
theorem shelf_setQueue_self (session : Session) (list : NameList) (queue : Queue) :
    (session.setQueue list queue).shelf list
      = ⟨session.names.get list, queue.holder.map (·.ticket),
          queue.line.filterMap Claim.caller?⟩ := by
  rw [shelf, names_setQueue, queueOf_setQueue_self]

/-- Of the other list they see what they saw before. -/
theorem shelf_setQueue_of_ne (session : Session) (h : other ≠ list) (queue : Queue) :
    (session.setQueue list queue).shelf other = session.shelf other :=
  shelf_congr (by rw [names_setQueue]) (queueOf_setQueue_of_ne session h queue)

/-- Those who close the session are nothing that callers see. -/
theorem shelf_stand_close (session : Session) (list other : NameList) (ticket : Nat)
    (wasOpen : Bool) :
    (session.stand list (.close ticket wasOpen)).shelf other = session.shelf other := by
  by_cases ho : other = list
  · rw [ho, stand, shelf_setQueue_self, List.filterMap_append, shelf]
    exact congrArg (Shelf.mk _ _) (List.append_nil _)
  · exact shelf_setQueue_of_ne session ho _

/-- Emptying a list leaves the other one alone. -/
theorem shelf_vacate_of_ne (session : Session) (h : other ≠ list) (ticket : Nat)
    (wasOpen : Bool) : (session.vacate list ticket wasOpen).shelf other = session.shelf other := by
  cases list with
  | base =>
    have hstood := shelf_stand_close
      { session with names := { session.names with base := none } } .core other ticket wasOpen
    refine Eq.trans hstood (shelf_congr ?_ (by cases other <;> rfl))
    cases other with
    | base => exact absurd rfl h
    | core => rfl
  | core =>
    cases other with
    | base => rfl
    | core => exact absurd rfl h

/-- What has no part in a list leaves no trace of it on the record. -/
theorem recorded_cons_of_ne {deed : Deed} (h : deed.list? ≠ some list) :
    Shelf.recorded list (deed :: deeds) = Shelf.recorded list deeds := by
  unfold Shelf.recorded
  cases deed with
  | arrived answer =>
    have hticket : (underway list (.arrived answer :: deeds)).map (·.ticket)
        = (underway list deeds).map (·.ticket) := by
      rw [underway, Option.map_map]
      rfl
    rw [hticket]
    rfl
  | wrote sent => rfl
  | _ =>
    rw [Deed.list?, ne_eq, Option.some.injEq] at h
    simp [content, underway, lined, h]

end Shelves

section Waiting

variable {now after : Session} {deeds : List Deed}

/-- A connection that is gone without queries in flight stays so, unless it comes back or a
query is sent. -/
theorem IsOver.of_holder (h : now.IsOver) (hl : after.connected = true → now.connected = true)
    (hq : ∀ list query, (after.queueOf list).holder = some query →
      (now.queueOf list).holder = some query) : after.IsOver where
  disconnected := by
    cases hc : after.connected with
    | false => rfl
    | true => exact absurd ((hl hc).symm.trans h.disconnected) (by simp)
  free := by
    intro list
    cases hh : (after.queueOf list).holder with
    | none => rfl
    | some query => exact absurd ((hq list query hh).symm.trans (h.free list)) (by simp)

/-- What registers nothing and tells nobody anything keeps alive what waits. -/
theorem Live.of_kept (h : now.Live deeds) {more : List Deed}
    (hr : after.router.roster = now.router.roster) (hw : after.router.words = now.router.words)
    (hn : now.nextTicket ≤ after.nextTicket) (hu : unanswered more = unanswered deeds)
    (hq : ∀ list query, (after.queueOf list).holder = some query →
      (now.queueOf list).holder = some query ∧ underway list more = underway list deeds) :
    after.Live more where
  outstanding := h.outstanding.of_subset (fun _ _ hh => hr ▸ hh) hw hn
  awaited := by
    intro list query hh
    obtain ⟨hbefore, hsame⟩ := hq list query hh
    obtain ⟨inquiry, hi, hawaited⟩ := h.awaited list query hbefore
    exact ⟨inquiry, hsame.trans hi, hawaited.congr hr hw⟩
  registered := by
    intro id hm
    rw [hr]
    exact h.registered id (hu ▸ hm)

/-- Sending takes nothing away that waits. -/
theorem Writes.heldUnder {waiter : Option Nat} {sent : Option Sent}
    (hs : Writes now waiter after sent) {id : String} {job : Job}
    (hh : now.router.roster.heldUnder id = some job) :
    after.router.roster.heldUnder id = some job := by
  cases sent with
  | none => rwa [hs.refused rfl]
  | some line =>
    obtain ⟨hfree, registered, -, hroster⟩ := hs.entered line rfl
    have hne : id ≠ line.id := by
      rintro rfl
      rw [Roster.heldUnder, hfree] at hh
      exact absurd hh (by simp)
    rwa [hroster, Roster.heldUnder, Keyed.get?_put_of_ne _ _ hne]

/-- What a query has heard stays when a line is written. -/
theorem Writes.hasHeard {waiter : Option Nat} {sent : Option Sent}
    (hs : Writes now waiter after sent) {id : String} {number : Nat} {reply : Option Outcome}
    (h : now.router.HasHeard id number reply) : after.router.HasHeard id number reply := by
  cases reply with
  | none =>
    obtain ⟨job, hh, hw⟩ := h
    exact ⟨job, hs.heldUnder hh, hw⟩
  | some outcome =>
    have hsame : after.router.wordFor number = now.router.wordFor number := by
      rw [Router.wordFor, hs.words, ← Router.wordFor]
    exact hsame.trans h

/-- A line that is written is waited for, under an id of its own. -/
theorem Live.registered_write (h : now.Live deeds) {waiter : Option Nat} {sent : Sent}
    (hs : Writes now waiter after (some sent)) :
    sent.id ∉ unanswered deeds ∧ ∀ id ∈ sent.id :: unanswered deeds,
      ∃ job, after.router.roster.heldUnder id = some job := by
  obtain ⟨hfree, registered, -, hroster⟩ := hs.entered sent rfl
  constructor
  · intro hm
    obtain ⟨job, hh⟩ := h.registered _ hm
    rw [Roster.heldUnder, hfree] at hh
    exact absurd hh (by simp)
  · intro id hm
    rcases List.mem_cons.mp hm with rfl | hm
    · exact ⟨registered, by rw [hroster, Roster.heldUnder, Keyed.get?_put_self]⟩
    · obtain ⟨job, hh⟩ := h.registered id hm
      exact ⟨job, hs.heldUnder hh⟩

end Waiting

section Records

variable {now after told : Session} {deeds : List Deed} {list : NameList}

/-- Who stands in a line stood there before, or has just come. -/
theorem mem_line_stand {session : Session} {list other : NameList} {claim second : Claim}
    (h : second ∈ ((session.stand list claim).queueOf other).line) :
    second ∈ (session.queueOf other).line ∨ other = list ∧ second = claim := by
  by_cases ho : other = list
  · rw [ho, stand, queueOf_setQueue_self] at h
    rcases List.mem_append.mp h with h | h
    · exact .inl (ho ▸ h)
    · exact .inr ⟨ho, List.mem_singleton.mp h⟩
  · rw [stand, queueOf_setQueue_of_ne _ ho] at h
    exact .inl h

/-- The names that are known are those on the record. -/
theorem Recorded.names (h : Recorded deeds now) (list : NameList) :
    now.names.get list = content list deeds :=
  congrArg Shelf.names (h.shelved list)

/-- The caller who has a list is the one whose query is under way on the record. -/
theorem Recorded.asker (h : Recorded deeds now) (list : NameList) :
    (now.queueOf list).holder.map (·.ticket) = (underway list deeds).map (·.ticket) :=
  congrArg Shelf.asker (h.shelved list)

/-- The callers in line are those on the record. -/
theorem Recorded.line (h : Recorded deeds now) (list : NameList) :
    (now.queueOf list).line.filterMap Claim.caller? = lined list deeds :=
  congrArg Shelf.line (h.shelved list)

/-- Where nobody has a list, no query for it is under way. -/
theorem Recorded.underway_of_free (h : Recorded deeds now)
    (hf : (now.queueOf list).holder = none) : underway list deeds = none := by
  have hasker := h.asker list
  rw [hf] at hasker
  exact Option.map_eq_none_iff.mp hasker.symm

/-- The first one in the line of a session is the first one on the record. -/
theorem Recorded.head_of_line (h : Recorded deeds now) {ticket : Nat} {rest : List Claim}
    (hq : now.queueOf list = ⟨none, .names ticket :: rest⟩) :
    lined list deeds = ticket :: rest.filterMap Claim.caller? := by
  rw [← h.line list, hq]
  rfl

/-- Who stands in a line when a list has got another queue stood there before, unless the queue
has brought somebody new. -/
theorem mem_line_of_setQueue {queue : Queue} {other : NameList} {claim : Claim}
    (hq : ∀ other, after.queueOf other = now.queueOf other)
    (hl : ∀ claim ∈ queue.line, claim ∈ (now.queueOf list).line)
    (hm : claim ∈ ((after.setQueue list queue).queueOf other).line) :
    claim ∈ (now.queueOf other).line := by
  by_cases ho : other = list
  · rw [ho, queueOf_setQueue_self] at hm
    exact ho ▸ hl claim hm
  · rw [queueOf_setQueue_of_ne _ ho, hq] at hm
    exact hm

/-- When a list has got another queue, both are as on the record if this one is. -/
theorem Recorded.shelved_setQueue (h : Recorded deeds now) {deed : Deed} {queue : Queue}
    (hd : deed.list? = some list) (hq : ∀ other, after.queueOf other = now.queueOf other)
    (hn : ∀ other, other ≠ list → after.names.get other = now.names.get other)
    (hs : Shelf.recorded list (deed :: deeds)
      = ⟨after.names.get list, queue.holder.map (·.ticket), queue.line.filterMap Claim.caller?⟩)
    (other : NameList) :
    (after.setQueue list queue).shelf other = Shelf.recorded other (deed :: deeds) := by
  by_cases ho : other = list
  · rw [ho, shelf_setQueue_self, hs]
  · have hne : deed.list? ≠ some other := fun he => ho (Option.some.inj (he.symm.trans hd))
    rw [shelf_setQueue_of_ne _ ho, recorded_cons_of_ne hne, ← h.shelved]
    exact shelf_congr (hn other ho) (hq other)

/-- What the last deed has given to a caller is settled with what others have got before. -/
theorem Recorded.settled_cons (h : Recorded deeds now) {deed : Deed} {other : NameList}
    {ticket : Nat} {result : Except SessionError (List String)}
    (hd : deed.result? list = some (ticket, result))
    {pair : Nat × Except SessionError (List String)} (hp : pair ∈ results other (deed :: deeds)) :
    (pair.1, Settled.names pair.2) ∈ (ticket, .names result) :: now.settled := by
  rw [results_cons] at hp
  rcases List.mem_append.mp hp with hp | hp
  · have hfound : deed.result? other = some pair := Option.mem_toList.mp hp
    obtain rfl := Option.some.inj ((deed.of_result hd).1.symm.trans (deed.of_result hfound).1)
    obtain rfl := Option.some.inj (hd.symm.trans hfound)
    exact List.mem_cons_self
  · exact List.mem_cons_of_mem _ (h.settled other pair hp)

/-- Who comes stands at the end of the line. -/
theorem Recorded.came (h : Recorded deeds now) (list : NameList) :
    Recorded (.came list now.nextTicket :: deeds)
      ({ now with nextTicket := now.nextTicket + 1 }.stand list (.names now.nextTicket)) := by
  let come := { now with nextTicket := now.nextTicket + 1 }
  have hqueue (other : NameList) : come.queueOf other = now.queueOf other := by
    cases other <;> rfl
  have hholder (other : NameList) :
      ((come.stand list (.names now.nextTicket)).queueOf other).holder
        = (now.queueOf other).holder := by
    rw [holder_stand, hqueue]
  refine
    { coherent := ⟨trivial, h.coherent⟩
      shelved := h.shelved_setQueue rfl hqueue (fun _ _ => rfl) ?_
      written := (written_setQueue come list _).trans h.written
      settled := fun other pair hp => by
        rw [stand, settled_setQueue]
        exact h.settled other pair hp
      emptied := fun other hm => by
        rw [stand, connected_setQueue]
        exact h.emptied other ((List.mem_cons.mp hm).resolve_left (by simp))
      closing := fun other ticket wasOpen hm => ?_
      live := h.live.imp (fun ho => ho.of_holder ?_ fun other query hh => hholder other ▸ hh)
        fun hl => hl.of_kept (congrArg Router.roster (router_setQueue come list _))
          (congrArg Router.words (router_setQueue come list _)) ?_ rfl
          fun other query hh => ⟨hholder other ▸ hh, rfl⟩ }
  · rw [hqueue, List.filterMap_append, h.line, h.asker]
    simp [Shelf.recorded, content, underway, lined, Claim.caller?, ← h.names]
  · rcases mem_line_stand hm with hm | ⟨-, he⟩
    · obtain ⟨hconnected, hbase⟩ := h.closing other ticket wasOpen (hqueue other ▸ hm)
      rw [hholder, stand, connected_setQueue]
      exact ⟨hconnected, hbase⟩
    · exact absurd he (by simp)
  · rw [stand, connected_setQueue]
    exact id
  · rw [stand, nextTicket_setQueue]
    exact Nat.le_succ _

/-- Somebody at the head of a line, or whose query was under way, is served. -/
theorem Recorded.serve (h : Recorded deeds now) {deed : Deed} {ticket : Nat}
    {result : Except SessionError (List String)} {rest : List Claim}
    (hmay : MayFollow deeds deed) (hd : deed.result? list = some (ticket, result))
    (hrest : ∀ claim ∈ rest, claim ∈ (now.queueOf list).line) (hc : told.callers = now.callers)
    (hl : told.connected = now.connected) (hw : told.written = now.written)
    (hn : ∀ other, other ≠ list → told.names.get other = now.names.get other)
    (hs : Shelf.recorded list (deed :: deeds)
      = ⟨told.names.get list, none, rest.filterMap Claim.caller?⟩) :
    Recorded (deed :: deeds)
      ((told.settle ticket (.names result)).setQueue list ⟨none, rest⟩) := by
  let paid := told.settle ticket (.names result)
  let served := paid.setQueue list ⟨none, rest⟩
  obtain ⟨hlist, hline, hids, hkept⟩ := deed.of_result hd
  have hqueue (other : NameList) : paid.queueOf other = now.queueOf other :=
    (queueOf_settle _ _ _ _).trans (queueOf_of_callers hc other)
  have hsettled : paid.settled = (ticket, .names result) :: now.settled :=
    congrArg _ (congrArg Callers.settled hc)
  have hrouter : served.router = told.router := router_setQueue _ _ _
  have hnext : served.nextTicket = told.nextTicket := nextTicket_setQueue _ _ _
  have hconnected : served.connected = now.connected := (connected_setQueue _ _ _).trans hl
  -- Of two lists that are free, the one that is served stays so.
  have hbase (hb : (now.queueOf .base).holder = none) : (served.queueOf .base).holder = none := by
    by_cases ho : list = .base
    · rw [← ho, queueOf_setQueue_self]
    · rw [queueOf_setQueue_of_ne _ (Ne.symm ho), hqueue, hb]
  -- A query that is in flight now was so before.
  have hholder (other : NameList) (query : Query)
      (hh : (served.queueOf other).holder = some query) :
      (now.queueOf other).holder = some query ∧
        underway other (deed :: deeds) = underway other deeds := by
    by_cases ho : other = list
    · rw [ho, queueOf_setQueue_self] at hh
      exact absurd hh (by simp)
    · rw [queueOf_setQueue_of_ne _ ho, hqueue] at hh
      exact ⟨hh, underway_cons_of_ne hlist ho⟩
  refine
    { coherent := ⟨hmay, h.coherent⟩
      shelved := h.shelved_setQueue hlist hqueue hn hs
      written := ?_
      settled := fun other pair hp => ?_
      emptied := fun other hm => hconnected.trans
        (h.emptied other ((List.mem_cons.mp hm).resolve_left (hkept other)))
      closing := fun other number wasOpen hm => ?_
      live := h.live.imp (fun ho => ho.of_holder (fun hc => hconnected ▸ hc)
          fun other query hh => (hholder other query hh).1)
        fun hlive => hlive.of_kept (hrouter ▸ congrArg Callers.roster hc)
          (hrouter ▸ congrArg Callers.words hc)
          (Nat.le_of_eq (hnext.trans (congrArg Callers.next hc)).symm) (hids deeds) hholder }
  · rw [written_setQueue, filterMap_cons_toList, hline]
    exact hw.trans h.written
  · rw [settled_setQueue, hsettled]
    exact h.settled_cons hd hp
  · obtain ⟨hgone, hfree⟩ :=
      h.closing other number wasOpen (mem_line_of_setQueue hqueue hrest hm)
    exact ⟨hconnected.trans hgone, fun hcore => hbase (hfree hcore)⟩

/-- The first one in line gets the names that are known. -/
theorem Recorded.given (h : Recorded deeds now) {ticket : Nat} {rest : List Claim}
    {names : List String} (hq : now.queueOf list = ⟨none, .names ticket :: rest⟩)
    (hn : now.names.get list = some names) :
    Recorded (.given list ticket names :: deeds)
      ((now.settle ticket (.names (.ok names))).setQueue list ⟨none, rest⟩) := by
  have hline := h.head_of_line hq
  have hfree : underway list deeds = none := h.underway_of_free (by rw [hq])
  refine h.serve ⟨by rw [hline]; rfl, hfree, by rw [← h.names, hn]⟩ (by simp [Deed.result?])
    (fun claim hm => by rw [hq]; exact List.mem_cons_of_mem _ hm) rfl rfl rfl (fun _ _ => rfl) ?_
  simp [Shelf.recorded, content, underway, lined, hline, hfree, h.names]

/-- The first one in line cannot send its query, and gets the reason. -/
theorem Recorded.refused (h : Recorded deeds now) {ticket : Nat} {rest : List Claim}
    {error : SessionError} (hq : now.queueOf list = ⟨none, .names ticket :: rest⟩)
    (hn : now.names.get list = none)
    (hc : now.call .root (now.settings.question list) now.inquiry = (after, .error error)) :
    Recorded (.refused list ticket error :: deeds)
      ((after.settle ticket (.names (.error error))).setQueue list ⟨none, rest⟩) := by
  have hline := h.head_of_line hq
  have hfree : underway list deeds = none := h.underway_of_free (by rw [hq])
  have hwrites := writes_call now .root (now.settings.question list) now.inquiry
  have hnext := nextTicket_call now .root (now.settings.question list) now.inquiry
  rw [hc] at hwrites hnext
  have hstanding := hwrites.standing
  have hnames : after.names = now.names := congrArg Standing.names hstanding
  have hbase : after.baseQueue = now.baseQueue := congrArg Standing.baseQueue hstanding
  have hcore : after.coreQueue = now.coreQueue := congrArg Standing.coreQueue hstanding
  have hsettled : after.settled = now.settled := congrArg Standing.settled hstanding
  have hcallers : after.callers = now.callers := by
    unfold callers
    rw [hwrites.refused rfl, hwrites.words, hnext, hbase, hcore, hsettled]
  refine h.serve ⟨by rw [hline]; rfl, hfree, by rw [← h.names, hn]⟩ (by simp [Deed.result?])
    (fun claim hm => by rw [hq]; exact List.mem_cons_of_mem _ hm) hcallers
    (congrArg Standing.connected hstanding) (hwrites.written.trans (List.append_nil _))
    (fun _ _ => by rw [hnames]) ?_
  simp [Shelf.recorded, content, underway, lined, hline, hfree, h.names, hnames]

/-- What the caller of a query has when it stops waiting is what the first response to it
has told. -/
theorem Recorded.reply (h : Recorded deeds now) {query : Query}
    (hq : (now.queueOf list).holder = some query) :
    ∃ sent, underway list deeds = some ⟨query.ticket, sent, now.replyTo query.waiter⟩ := by
  rcases h.live with hover | hlive
  · exact absurd (hq.symm.trans (hover.free list)) (by simp)
  · obtain ⟨inquiry, hi, hawaited⟩ := hlive.awaited list query hq
    have hasker := h.asker list
    rw [hq, hi] at hasker
    have hticket : query.ticket = inquiry.ticket := Option.some.inj hasker
    have hreply : now.replyTo query.waiter = inquiry.reply := by
      rw [replyTo, hawaited.word hlive.outstanding.awaits]
      cases inquiry.reply <;> rfl
    exact ⟨inquiry.sent, by rw [hticket, hreply, hi]⟩

/-- A query ends, and its caller gets what there is by then. -/
theorem Recorded.ended (h : Recorded deeds now) {query : Query} {line : List Claim}
    (hq : now.queueOf list = ⟨some query, line⟩) :
    Recorded (.ended list query.ticket (now.replyTo query.waiter) :: deeds)
      (({ now with
            names := learnt now.names list (namesOf list (now.replyTo query.waiter)) }.settle
          query.ticket (.names (namesOf list (now.replyTo query.waiter)))).setQueue list
        ⟨none, line⟩) := by
  let result := namesOf list (now.replyTo query.waiter)
  have hholder : (now.queueOf list).holder = some query := by rw [hq]
  obtain ⟨sent, hsent⟩ := h.reply hholder
  have hunknown : content list deeds = none := by
    cases hc : content list deeds with
    | none => rfl
    | some names =>
      have hfree := h.coherent.underway_of_content hc
      exact absurd (hsent.symm.trans hfree) (by simp)
  have hline : lined list deeds = line.filterMap Claim.caller? := by
    rw [← h.line, hq]
  have hlearnt : (learnt now.names list result).get list
      = content list (.ended list query.ticket (now.replyTo query.waiter) :: deeds) := by
    rw [content, if_pos rfl]
    unfold learnt
    cases hr : result with
    | ok names =>
      rw [show namesOf list (now.replyTo query.waiter) = .ok names from hr]
      exact KnownNames.get_fill_self now.names list names
    | error error =>
      rw [show namesOf list (now.replyTo query.waiter) = .error error from hr]
      exact h.names list
  refine h.serve ⟨sent, hsent⟩ (by simp [Deed.result?]) (fun claim hm => by rw [hq]; exact hm)
    rfl rfl rfl (fun other ho => ?_) ?_
  · dsimp only
    unfold learnt
    split
    · exact KnownNames.get_fill_of_ne now.names _ ho
    · rfl
  · rw [Shelf.recorded, ← hlearnt]
    simp [underway, lined, hline, result]

/-- What waits for responses when a query has been sent waits for its response, too. -/
theorem Live.asked (h : now.Live deeds) {ticket waiter : Nat} {rest : List Claim} {sent : Sent}
    (hs : Writes now (some waiter) after (some sent)) (ho : after.Outstanding) :
    (after.setQueue list ⟨some ⟨ticket, waiter⟩, rest⟩).Live
      (.asked list ticket sent :: deeds) := by
  let asked := after.setQueue list ⟨some ⟨ticket, waiter⟩, rest⟩
  have hrouter : asked.router = after.router := router_setQueue _ _ _
  refine
    { outstanding := ho.of_subset (fun _ _ hh => hrouter ▸ hh) (congrArg Router.words hrouter)
        (Nat.le_of_eq (nextTicket_setQueue _ _ _).symm)
      awaited := fun other query hh => ?_
      registered := fun id hm => hrouter ▸ (h.registered_write hs).2 id hm }
  by_cases ho : other = list
  · subst ho
    rw [queueOf_setQueue_self] at hh
    obtain rfl := Option.some.inj hh
    obtain ⟨-, registered, hw, hroster⟩ := hs.entered sent rfl
    refine ⟨⟨ticket, sent, none⟩, if_pos rfl, registered, ?_, hw⟩
    rw [hrouter, hroster, Roster.heldUnder, Keyed.get?_put_self]
  · rw [queueOf_setQueue_of_ne _ ho, queueOf_congr hs.standing] at hh
    obtain ⟨inquiry, hi, hawaited⟩ := h.awaited other query hh
    refine ⟨inquiry, (underway_cons_of_ne rfl ho).trans hi, ?_⟩
    rw [hrouter]
    exact hs.hasHeard hawaited

/-- The first one in line sends a query. -/
theorem Recorded.asked (h : Recorded deeds now) {ticket waiter : Nat} {rest : List Claim}
    {sent : Sent} (hq : now.queueOf list = ⟨none, .names ticket :: rest⟩)
    (hn : now.names.get list = none)
    (hc : now.call .root (now.settings.question list) now.inquiry = (after, .ok (sent, waiter))) :
    Recorded (.asked list ticket sent :: deeds)
      (after.setQueue list ⟨some ⟨ticket, waiter⟩, rest⟩) := by
  have hline := h.head_of_line hq
  have hfree : underway list deeds = none := h.underway_of_free (by rw [hq])
  have hopen : now.connected = true := connected_of_call hc
  obtain rfl : waiter = now.nextTicket := waiter_of_call hc
  have hwrites := writes_call now .root (now.settings.question list) now.inquiry
  rw [hc] at hwrites
  have hqueue := queueOf_congr hwrites.standing
  have hnames : after.names = now.names := congrArg Standing.names hwrites.standing
  have hsettled : after.settled = now.settled := congrArg Standing.settled hwrites.standing
  have hlive : now.Live deeds := h.live.resolve_left fun hover =>
    absurd (hopen.symm.trans hover.disconnected) (by simp)
  have houtstanding : after.Outstanding := by
    have hcall : (now.call .root (now.settings.question list) now.inquiry).1.Outstanding :=
      hlive.outstanding.call .root _ ⟨rfl, rfl⟩
    rwa [hc] at hcall
  have hkept : .emptied list ∉ deeds := fun hm =>
    absurd (hopen.symm.trans (h.emptied list hm)) (by simp)
  refine
    { coherent := ⟨⟨⟨by rw [hline]; rfl, hfree, by rw [← h.names, hn], hkept⟩,
        (hlive.registered_write hwrites).1⟩, h.coherent⟩
      shelved := h.shelved_setQueue rfl hqueue (fun _ _ => by rw [hnames]) ?_
      written := ?_
      settled := fun other pair hp => ?_
      emptied := fun other hm => ?_
      closing := fun other number wasOpen hm => ?_
      live := .inr (hlive.asked hwrites houtstanding) }
  · simp [Shelf.recorded, content, underway, lined, hline, hnames, h.names]
  · rw [written_setQueue, hwrites.written, h.written, filterMap_cons_toList, List.reverse_append]
    rfl
  · rw [settled_setQueue, hsettled]
    exact h.settled other pair hp
  · have hold := h.emptied other ((List.mem_cons.mp hm).resolve_left (by simp))
    exact absurd (hopen.symm.trans hold) (by simp)
  · -- Nobody stands there to close a session that sends.
    have hrest : ∀ claim ∈ rest, claim ∈ (now.queueOf list).line := fun claim hm => by
      rw [hq]
      exact List.mem_cons_of_mem _ hm
    have hold := h.closing other number wasOpen (mem_line_of_setQueue hqueue hrest hm)
    exact absurd (hopen.symm.trans hold.1) (by simp)

/-- Somebody who closes the session empties the first list and goes on to the second one. -/
theorem Recorded.emptied_base (h : Recorded deeds now) {ticket : Nat} {wasOpen : Bool}
    {rest : List Claim} (hq : now.queueOf .base = ⟨none, .close ticket wasOpen :: rest⟩) :
    Recorded (.emptied .base :: deeds)
      ((now.setQueue .base ⟨none, rest⟩).vacate .base ticket wasOpen) := by
  have hclose : .close ticket wasOpen ∈ (now.queueOf .base).line := by
    rw [hq]
    exact List.mem_cons_self
  have hgone := (h.closing .base ticket wasOpen hclose).1
  have hline : lined .base deeds = rest.filterMap Claim.caller? := by
    rw [← h.line, hq]
    rfl
  have hfree : underway .base deeds = none := h.underway_of_free (by rw [hq])
  -- The claim that the second list gets is none of a caller.
  have hholder (list : NameList) (query : Query)
      (hh : (((now.setQueue .base ⟨none, rest⟩).vacate .base ticket wasOpen).queueOf list).holder
        = some query) : (now.queueOf list).holder = some query := by
    cases list with
    | base => exact absurd hh (by simp [vacate, setQueue, queueOf])
    | core => exact hh
  refine
    { coherent := ⟨hfree, h.coherent⟩
      shelved := fun list => ?_
      written := h.written
      settled := h.settled
      emptied := fun _ _ => hgone
      closing := fun list number open? hm => ⟨hgone, fun _ => rfl⟩
      live := h.live.imp (fun ho => ho.of_holder id hholder)
        fun hlive => hlive.of_kept rfl rfl (Nat.le_refl _) rfl
          fun list query hh => ⟨hholder list query hh, rfl⟩ }
  cases list with
  | base => simp [shelf, vacate, setQueue, queueOf, Shelf.recorded, content, underway, lined,
      hline, hfree, KnownNames.get]
  | core =>
    have hne : (Deed.emptied .base).list? ≠ some .core := by simp [Deed.list?]
    rw [shelf_vacate_of_ne _ (by simp), shelf_setQueue_of_ne _ (by simp),
      recorded_cons_of_ne hne, h.shelved]

/-- When the second list is emptied and the jobs are ended, nobody waits for names. -/
theorem Recorded.emptied_core (h : Recorded deeds now) {ticket : Nat} {wasOpen : Bool}
    {rest : List Claim} (hq : now.queueOf .core = ⟨none, .close ticket wasOpen :: rest⟩) :
    Recorded (.emptied .core :: deeds)
      ((now.setQueue .core ⟨none, rest⟩).vacate .core ticket wasOpen) := by
  have hclose : .close ticket wasOpen ∈ (now.queueOf .core).line := by
    rw [hq]
    exact List.mem_cons_self
  obtain ⟨hgone, hbase⟩ := h.closing .core ticket wasOpen hclose
  have hline : lined .core deeds = rest.filterMap Claim.caller? := by
    rw [← h.line, hq]
    rfl
  have hfree : underway .core deeds = none := h.underway_of_free (by rw [hq])
  refine
    { coherent := ⟨hfree, h.coherent⟩
      shelved := fun list => ?_
      written := h.written
      settled := fun list pair hp => List.mem_cons_of_mem _ (h.settled list pair hp)
      emptied := fun _ _ => hgone
      closing := fun list number open? hm => ⟨hgone, fun _ => hbase rfl⟩
      live := .inl ⟨hgone, fun list => ?_⟩ }
  · cases list with
    | base =>
      have hne : (Deed.emptied .core).list? ≠ some .base := by simp [Deed.list?]
      rw [shelf_vacate_of_ne _ (by simp), shelf_setQueue_of_ne _ (by simp),
        recorded_cons_of_ne hne, h.shelved]
    | core => simp [shelf, vacate, setQueue, queueOf, settle, endJobs, note, Shelf.recorded,
        content, underway, lined, hline, hfree, KnownNames.get]
  · cases list with
    | base => exact hbase rfl
    | core => rfl

/-- Who begins to close the session stands in the first line, which is nothing for the record.
-/
theorem Recorded.leaving (h : Recorded deeds now) :
    Recorded deeds
      ((shut { now with nextTicket := now.nextTicket + 1 }).1.stand .base
        (.close now.nextTicket (shut { now with nextTicket := now.nextTicket + 1 }).2)) := by
  let shut := (shut { now with nextTicket := now.nextTicket + 1 }).1
  have hqueue (list : NameList) : shut.queueOf list = now.queueOf list := by
    cases list <;> rfl
  exact
    { coherent := h.coherent
      shelved := fun list => by
        rw [shelf_stand_close, ← h.shelved]
        exact shelf_congr rfl (hqueue list)
      written := h.written
      settled := h.settled
      emptied := fun _ _ => rfl
      closing := fun list ticket wasOpen hm => by
        refine ⟨rfl, fun hcore => ?_⟩
        rw [holder_stand, hqueue]
        rcases mem_line_stand hm with hm | ⟨hbase, -⟩
        · exact (h.closing list ticket wasOpen (hqueue list ▸ hm)).2 hcore
        · exact absurd (hbase.symm.trans hcore) (by simp)
      live := h.live.imp
        (fun ho => ho.of_holder (fun hc => absurd hc (by simp [stand, setQueue, Session.shut]))
          fun list query hh => hqueue list ▸ holder_stand shut .base list _ ▸ hh)
        fun hlive => hlive.of_kept rfl rfl (Nat.le_succ _) rfl
          fun list query hh => ⟨hqueue list ▸ holder_stand shut .base list _ ▸ hh, rfl⟩ }

/-- A response is routed, and the query that it answers has heard of it. -/
theorem Recorded.arrived (h : Recorded deeds now) (answer : Response) :
    Recorded (.arrived answer :: deeds)
      { now with router := (now.router.perform (.route answer)).1 } := by
  let heard := { now with router := (now.router.perform (.route answer)).1 }
  have hqueue (list : NameList) : heard.queueOf list = now.queueOf list := by
    cases list <;> rfl
  refine
    { coherent := ⟨trivial, h.coherent⟩
      shelved := fun list => ?_
      written := h.written
      settled := h.settled
      emptied := fun list hm => h.emptied list ((List.mem_cons.mp hm).resolve_left (by simp))
      closing := fun list ticket wasOpen hm => ?_
      live := h.live.imp (fun ho => ho.of_holder id fun list query hh => hqueue list ▸ hh)
        fun hlive => ?_ }
  · rw [recorded_cons_of_ne (by simp [Deed.list?]), ← h.shelved]
    exact shelf_congr rfl (hqueue list)
  · rw [hqueue]
    exact h.closing list ticket wasOpen (hqueue list ▸ hm)
  · have hs := Router.settles_route hlive.outstanding.awaits.passive answer
    refine ⟨hlive.outstanding.of_settles hs rfl, fun list query hh => ?_, fun id hm => ?_⟩
    · obtain ⟨inquiry, hi, hawaited⟩ := hlive.awaited list query (hqueue list ▸ hh)
      exact ⟨inquiry.hears answer, by rw [underway, hi]; rfl,
        hawaited.route hlive.outstanding.awaits answer⟩
    · obtain ⟨hold, hne⟩ := List.mem_filter.mp hm
      obtain ⟨job, hh⟩ := hlive.registered id hold
      have hother : id ≠ answer.requestId := by simpa using hne
      exact ⟨job, Router.heldUnder_route hlive.outstanding.awaits hother hh⟩

/-- A line that is no query for names is written, or none. -/
theorem Recorded.wrote (h : Recorded deeds now) {waiter : Option Nat}
    {result : Except SessionError Sent} (hs : Writes now waiter after result.toOption)
    (hopen : ∀ sent, result = .ok sent → now.connected = true)
    (ho : now.Outstanding → after.Outstanding) :
    Recorded (Deed.ofSent result ++ deeds) after := by
  have hstanding := hs.standing
  have hconnected : after.connected = now.connected := congrArg Standing.connected hstanding
  have hsettled : after.settled = now.settled := congrArg Standing.settled hstanding
  have hclosing : ∀ list ticket wasOpen, .close ticket wasOpen ∈ (after.queueOf list).line →
      after.connected = false ∧ (list = .core → (after.queueOf .base).holder = none) := by
    intro list ticket wasOpen hm
    rw [hconnected, queueOf_congr hstanding]
    exact h.closing list ticket wasOpen (queueOf_congr hstanding list ▸ hm)
  have hover (hover : now.IsOver) : after.IsOver :=
    hover.of_holder (fun hc => hconnected ▸ hc) fun list _ hh => queueOf_congr hstanding list ▸ hh
  have hawaited (hlive : now.Live deeds) (list : NameList) (query : Query)
      (hh : (after.queueOf list).holder = some query) :
      ∃ inquiry, underway list deeds = some inquiry ∧
        after.router.HasHeard inquiry.sent.id query.waiter inquiry.reply := by
    obtain ⟨inquiry, hi, hbefore⟩ := hlive.awaited list query (queueOf_congr hstanding list ▸ hh)
    exact ⟨inquiry, hi, hs.hasHeard hbefore⟩
  cases result with
  | error error =>
    exact
      { coherent := h.coherent
        shelved := fun list => (shelf_of_standing hstanding list).trans (h.shelved list)
        written := (hs.written.trans (List.append_nil _)).trans h.written
        settled := fun list pair hp => hsettled ▸ h.settled list pair hp
        emptied := fun list hm => hconnected.trans (h.emptied list hm)
        closing := hclosing
        live := h.live.imp hover fun hlive =>
          { outstanding := ho hlive.outstanding
            awaited := hawaited hlive
            registered := fun id hm => by
              obtain ⟨job, hh⟩ := hlive.registered id hm
              exact ⟨job, hs.heldUnder hh⟩ } }
  | ok sent =>
    have hlive : now.Live deeds := h.live.resolve_left fun hover =>
      absurd ((hopen sent rfl).symm.trans hover.disconnected) (by simp)
    obtain ⟨hfresh, hregistered⟩ := hlive.registered_write hs
    exact
      { coherent := ⟨hfresh, h.coherent⟩
        shelved := fun list => (shelf_of_standing hstanding list).trans (h.shelved list)
        written := by
          rw [hs.written, h.written]
          simp [Deed.ofSent, Deed.line?, Except.toOption]
        settled := fun list pair hp => hsettled ▸ h.settled list pair hp
        emptied := fun list hm => hconnected.trans
          (h.emptied list ((List.mem_cons.mp hm).resolve_left (by simp)))
        closing := hclosing
        live := .inr ⟨ho hlive.outstanding, hawaited hlive, hregistered⟩ }

/-- What leaves alone all that callers see leaves the record as it is. -/
theorem Recorded.kept (h : Recorded deeds now) (hc : after.callers = now.callers)
    (hn : after.names = now.names) (hw : after.written = now.written)
    (hl : after.connected = true → now.connected = true) : Recorded deeds after := by
  have hqueue := queueOf_of_callers hc
  have hsettled : after.settled = now.settled := congrArg Callers.settled hc
  have hgone (hg : now.connected = false) : after.connected = false := by
    cases hconnected : after.connected with
    | false => rfl
    | true => exact absurd ((hl hconnected).symm.trans hg) (by simp)
  exact
    { coherent := h.coherent
      shelved := fun list => (shelf_congr (by rw [hn]) (hqueue list)).trans (h.shelved list)
      written := hw.trans h.written
      settled := fun list pair hp => hsettled ▸ h.settled list pair hp
      emptied := fun list hm => hgone (h.emptied list hm)
      closing := fun list ticket wasOpen hm => by
        obtain ⟨hg, hbase⟩ := h.closing list ticket wasOpen (hqueue list ▸ hm)
        exact ⟨hgone hg, fun hcore => hqueue .base ▸ hbase hcore⟩
      live := h.live.imp (fun ho => ho.of_holder hl fun list query hh => hqueue list ▸ hh)
        fun hlive => hlive.of_kept (congrArg Callers.roster hc) (congrArg Callers.words hc)
          (Nat.le_of_eq (congrArg Callers.next hc).symm) rfl
          fun list query hh => ⟨hqueue list ▸ hh, rfl⟩ }

/-- Whatever happens to a session, it agrees with its record. -/
theorem Chronicle.recorded {start : Session} (h : start.Chronicle now deeds)
    (hs : Recorded [] start) : Recorded deeds now := by
  have hsent {session after : Session} {path : Namespace} {code : String} {job : Job}
      {sent : Sent} (hok : session.send path code job = (after, .ok sent)) :
      session.connected = true := by
    cases hc : session.connected with
    | true => rfl
    | false =>
      rw [send_of_disconnected hc] at hok
      exact absurd (congrArg Prod.snd hok) (by simp)
  induction h with
  | begun => exact hs
  | came list _ ih => exact ih.came list
  | given hq hn _ ih => exact ih.given hq hn
  | asked hq hn hc _ ih => exact ih.asked hq hn hc
  | refused hq hn hc _ ih => exact ih.refused hq hn hc
  | ended hq _ ih => exact ih.ended hq
  | @emptied _ _ list _ _ _ hq _ ih =>
    cases list with
    | base => exact ih.emptied_base hq
    | core => exact ih.emptied_core hq
  | leaving _ ih => exact ih.leaving
  | arrived answer _ ih => exact ih.arrived answer
  | @sent now _ path code job hp hw _ ih =>
    refine ih.wrote (writes_send now path code job) (fun sent hr => ?_) fun ho =>
      ho.send path code hp hw
    exact hsent (Prod.ext rfl hr)
  | @called now _ path code job hp _ ih =>
    refine ih.wrote (writes_call now path code job) (fun sent hr => ?_) fun ho =>
      ho.call path code hp
    cases hc : now.call path code job with
    | mk after result =>
      cases result with
      | ok got => exact connected_of_call hc
      | error error =>
        rw [hc] at hr
        exact absurd hr (by simp [Except.map])
  | kept hc hn hw hl _ ih => exact ih.kept hc hn hw hl

end Records

end ReplLink.Session
