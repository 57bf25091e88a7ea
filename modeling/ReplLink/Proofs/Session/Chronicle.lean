import ReplLink.Proofs.Session.Inert
import ReplLink.Proofs.Session.Shelves
import ReplLink.Proofs.Session.Stages

/-!
# How a session comes to its record

A session does one thing after the other: a caller comes, the first one in a line is
served, a query ends, a response arrives. `Chronicle` says what each of these does to the
session and which deed it leaves on the record. Whatever callers and the interpreter do
with a session, in any order, comes to a row of them.
-/

namespace ReplLink.Session

open ReplLink.Routing ReplLink.Stream ReplLink.Text

section Definitions

/-- The deed that sending leaves on the record. -/
def Deed.ofSent : Except SessionError Sent → List Deed
  | .ok sent => [.wrote sent]
  | .error _ => []

/-- The list that somebody comes to. -/
def Deed.visit? : Deed → Option NameList
  | .came list _ => some list
  | _ => none

/-- What is known when a query for a list has ended. -/
def learnt (known : KnownNames) (list : NameList) (result : Except SessionError (List String)) :
    KnownNames :=
  match result with
  | .ok names => known.fill list names
  | .error _ => known

/-- What can become of a session, one thing after the other, and the record of it. -/
inductive Chronicle (start : Session) : Session → List Deed → Prop
  /-- At the start nothing has happened. -/
  | begun : Chronicle start start []
  /-- A caller comes and stands in the line of a list. -/
  | came {now : Session} {deeds : List Deed} (list : NameList) (h : Chronicle start now deeds) :
    Chronicle start
      ({ now with nextTicket := now.nextTicket + 1 }.stand list (.names now.nextTicket))
      (.came list now.nextTicket :: deeds)
  /-- The first one in the line of a list that nobody has gets names that are known. -/
  | given {now : Session} {deeds : List Deed} {list : NameList} {ticket : Nat}
    {rest : List Claim} {names : List String}
    (hq : now.queueOf list = ⟨none, .names ticket :: rest⟩)
    (hn : now.names.get list = some names) (h : Chronicle start now deeds) :
    Chronicle start ((now.settle ticket (.names (.ok names))).setQueue list ⟨none, rest⟩)
      (.given list ticket names :: deeds)
  /-- Where none are known, it sends a query, and has the list from then on. -/
  | asked {now after : Session} {deeds : List Deed} {list : NameList} {ticket waiter : Nat}
    {rest : List Claim} {sent : Sent} (hq : now.queueOf list = ⟨none, .names ticket :: rest⟩)
    (hn : now.names.get list = none)
    (hc : now.call .root (now.settings.question list) now.inquiry = (after, .ok (sent, waiter)))
    (h : Chronicle start now deeds) :
    Chronicle start (after.setQueue list ⟨some ⟨ticket, waiter⟩, rest⟩)
      (.asked list ticket sent :: deeds)
  /-- If the query cannot be sent, it is told so. -/
  | refused {now after : Session} {deeds : List Deed} {list : NameList} {ticket : Nat}
    {rest : List Claim} {error : SessionError}
    (hq : now.queueOf list = ⟨none, .names ticket :: rest⟩) (hn : now.names.get list = none)
    (hc : now.call .root (now.settings.question list) now.inquiry = (after, .error error))
    (h : Chronicle start now deeds) :
    Chronicle start ((after.settle ticket (.names (.error error))).setQueue list ⟨none, rest⟩)
      (.refused list ticket error :: deeds)
  /-- The query of a list ends. -/
  | ended {now : Session} {deeds : List Deed} {list : NameList} {query : Query}
    {line : List Claim} (hq : now.queueOf list = ⟨some query, line⟩)
    (h : Chronicle start now deeds) :
    Chronicle start
      (({ now with
            names := learnt now.names list (namesOf list (now.replyTo query.waiter)) }.settle
          query.ticket (.names (namesOf list (now.replyTo query.waiter)))).setQueue list
        ⟨none, line⟩)
      (.ended list query.ticket (now.replyTo query.waiter) :: deeds)
  /-- The first one in the line of a list that nobody has closes the session. -/
  | emptied {now : Session} {deeds : List Deed} {list : NameList} {ticket : Nat}
    {wasOpen : Bool} {rest : List Claim}
    (hq : now.queueOf list = ⟨none, .close ticket wasOpen :: rest⟩)
    (h : Chronicle start now deeds) :
    Chronicle start ((now.setQueue list ⟨none, rest⟩).vacate list ticket wasOpen)
      (.emptied list :: deeds)
  /-- Somebody begins to close the session. -/
  | leaving {now : Session} {deeds : List Deed} (h : Chronicle start now deeds) :
    Chronicle start
      ((shut { now with nextTicket := now.nextTicket + 1 }).1.stand .base
        (.close now.nextTicket (shut { now with nextTicket := now.nextTicket + 1 }).2))
      deeds
  /-- A response arrives. -/
  | arrived {now : Session} {deeds : List Deed} (answer : Response)
    (h : Chronicle start now deeds) :
    Chronicle start { now with router := (now.router.perform (.route answer)).1 }
      (.arrived answer :: deeds)
  /-- Code is sent for which nobody waits. -/
  | sent {now : Session} {deeds : List Deed} (path : Namespace) (code : String) {job : Job}
    (hp : job.IsPassive) (hw : job.waiter = none) (h : Chronicle start now deeds) :
    Chronicle start (now.send path code job).1
      (Deed.ofSent (now.send path code job).2 ++ deeds)
  /-- Code is sent and a caller waits. -/
  | called {now : Session} {deeds : List Deed} (path : Namespace) (code : String) {job : Job}
    (hp : job.IsPassive) (h : Chronicle start now deeds) :
    Chronicle start (now.call path code job).1
      (Deed.ofSent ((now.call path code job).2.map Prod.fst) ++ deeds)
  /-- Something happens that no caller has to do with. It may cost the connection. -/
  | kept {now after : Session} {deeds : List Deed} (hc : after.callers = now.callers)
    (hn : after.names = now.names) (hw : after.written = now.written)
    (hl : after.connected = true → now.connected = true) (h : Chronicle start now deeds) :
    Chronicle start after deeds

/-- A session is reached on some record, on which callers have come to these lists, the
last one first. -/
def Tells (start now : Session) (come : List NameList) : Prop :=
  ∃ deeds, Chronicle start now deeds ∧ deeds.filterMap Deed.visit? = come

/-- Callbacks give no commands, and who waits for a job is the one who calls. -/
def Move.IsPlain : Move → Prop
  | .send _ _ job => job.IsPassive ∧ job.waiter = none
  | .call _ _ job => job.IsPassive
  | _ => True

/-- The list that a move brings a caller to. -/
def Move.visit? : Move → Option NameList
  | .askNames list => some list
  | _ => none

end Definitions

/-- The job of a plain move registers nothing when it is ended, whatever the policy. -/
theorem Move.IsPlain.endsQuietly {move : Move} (h : move.IsPlain) (policy : Policy) :
    move.EndsQuietly policy := by
  cases move with
  | send path code job => exact JobOf.IsPassive.endsQuietly h.1 policy
  | call path code job => exact JobOf.IsPassive.endsQuietly h policy
  | _ => trivial

section Queues

/-! Sending takes no notice of those who want the lists of names. -/

/-- Taking a request back does not look at the queues. -/
theorem takeBack_setQueue (session : Session) (list : NameList) (queue : Queue) (id : String)
    (error : SessionError) :
    (session.setQueue list queue).takeBack id error
      = (session.takeBack id error).setQueue list queue := by
  cases list with
  | base =>
    unfold takeBack
    dsimp only [setQueue, note]
    split <;> rfl
  | core =>
    unfold takeBack
    dsimp only [setQueue, note]
    split <;> rfl

/-- Writing a line does not look at the queues. -/
theorem write_setQueue (session : Session) (list : NameList) (queue : Queue) (id line : String) :
    (session.setQueue list queue).write id line
      = ((session.write id line).1.setQueue list queue, (session.write id line).2) := by
  have hchannel : (session.setQueue list queue).channel = session.channel := by
    cases list <;> rfl
  unfold write
  rw [hchannel]
  cases session.channel with
  | up => cases list <;> rfl
  | broken => exact congrArg (·, _) (takeBack_setQueue session list queue id _)
  | shut => exact congrArg (·, _) (takeBack_setQueue session list queue id _)

/-- Entering a request into the roster does not look at the queues. -/
theorem enter_setQueue (session : Session) (list : NameList) (queue : Queue) (id : String)
    (tokens : List String) (code : String) (job : Job) :
    (session.setQueue list queue).enter id tokens code job
      = ((session.enter id tokens code job).1.setQueue list queue,
          (session.enter id tokens code job).2) := by
  unfold enter
  rw [← write_setQueue]
  cases list <;> rfl

/-- A send does not look at the queues. -/
theorem send_setQueue (session : Session) (list : NameList) (queue : Queue) (path : Namespace)
    (code : String) (job : Job) :
    (session.setQueue list queue).send path code job
      = ((session.send path code job).1.setQueue list queue,
          (session.send path code job).2) := by
  -- Nothing that is looked at before the line is written is in a queue.
  let after := session.setQueue list queue
  have hconnected : after.connected = session.connected := by cases list <;> rfl
  have hfresh : RequestId.fresh (after.draw after.drawn) after.router.roster
      = RequestId.fresh (session.draw session.drawn) session.router.roster := by
    cases list <;> rfl
  have hspill : after.mustSpill code job = session.mustSpill code job := by cases list <;> rfl
  have hcan : after.canSpill = session.canSpill := by cases list <;> rfl
  have hpath : after.spillPath = session.spillPath := by cases list <;> rfl
  have hloader : after.settings.fileLoader = session.settings.fileLoader := by
    cases list <;> rfl
  dsimp only [after] at hconnected hfresh hspill hcan hpath hloader
  unfold send
  rw [hconnected]
  split
  · rfl
  · cases path.tokens with
    | error refusal => rfl
    | ok tokens =>
      dsimp only
      rw [hfresh, hspill, hcan, hpath, hloader]
      split
      · split
        · rfl
        · rw [← enter_setQueue]
          cases list <;> rfl
      · exact enter_setQueue session list queue _ tokens code job

/-- A call does not look at the queues. -/
theorem call_setQueue (session : Session) (list : NameList) (queue : Queue) (path : Namespace)
    (code : String) (job : Job) :
    (session.setQueue list queue).call path code job
      = ((session.call path code job).1.setQueue list queue,
          (session.call path code job).2) := by
  have hticket : (session.setQueue list queue).nextTicket = session.nextTicket := by
    cases list <;> rfl
  unfold call
  dsimp only
  rw [hticket, send_setQueue]
  cases session.send path code { job with waiter := some session.nextTicket } with
  | mk after result =>
    cases result with
    | ok sent => cases list <;> rfl
    | error error => rfl

theorem inquiry_setQueue (session : Session) (list : NameList) (queue : Queue) :
    (session.setQueue list queue).inquiry = session.inquiry := by
  cases list <;> rfl

theorem settings_setQueue (session : Session) (list : NameList) (queue : Queue) :
    (session.setQueue list queue).settings = session.settings := by
  cases list <;> rfl

theorem settle_setQueue (session : Session) (list : NameList) (queue : Queue) (ticket : Nat)
    (settled : Settled) :
    (session.setQueue list queue).settle ticket settled
      = (session.settle ticket settled).setQueue list queue := by
  cases list <;> rfl

/-- Leaving the line of a list and setting its queue commute. -/
theorem vacate_setQueue (session : Session) (list : NameList) (queue : Queue) (ticket : Nat)
    (wasOpen : Bool) :
    (session.setQueue list queue).vacate list ticket wasOpen
      = (session.vacate list ticket wasOpen).setQueue list queue := by
  cases list <;> rfl

end Queues

section Tells

variable {start now : Session} {come : List NameList}

/-- One more thing happens, and nobody comes. -/
theorem Tells.next {after : Session} (h : start.Tells now come)
    (hn : ∀ deeds, start.Chronicle now deeds → ∃ more : List Deed,
      more.filterMap Deed.visit? = [] ∧ start.Chronicle after (more ++ deeds)) :
    start.Tells after come := by
  obtain ⟨deeds, hdeeds, hcome⟩ := h
  obtain ⟨more, hnone, hmore⟩ := hn deeds hdeeds
  exact ⟨more ++ deeds, hmore, by rw [List.filterMap_append, hnone, hcome, List.nil_append]⟩

/-- Nothing has happened on the record while callers, known names and written lines are kept and
the connection does not come back. -/
theorem Tells.kept {after : Session} (h : start.Tells now come)
    (hc : after.callers = now.callers) (hn : after.names = now.names)
    (hw : after.written = now.written) (hl : after.connected = true → now.connected = true) :
    start.Tells after come :=
  h.next fun _ hd => ⟨[], rfl, .kept hc hn hw hl hd⟩

/-- Serving a line comes to one thing after the other. -/
theorem Tells.serve (list : NameList) (claims : List Claim)
    (h : start.Tells (now.setQueue list ⟨none, claims⟩) come) :
    start.Tells ((serve list claims now).1.setQueue list (serve list claims now).2) come := by
  induction claims generalizing now with
  | nil => exact h
  | cons claim rest ih =>
    have hqueue := queueOf_setQueue_self now list ⟨none, claim :: rest⟩
    cases claim with
    | close ticket wasOpen =>
      refine ih (h.next fun deeds hd => ⟨[.emptied list], rfl, ?_⟩)
      have hstep := hd.emptied hqueue
      rwa [setQueue_setQueue, vacate_setQueue] at hstep
    | names ticket =>
      let waiting := now.setQueue list ⟨none, .names ticket :: rest⟩
      have hnames : waiting.names = now.names := names_setQueue now list _
      have hcall : waiting.call .root (waiting.settings.question list) waiting.inquiry
          = ((now.call .root (now.settings.question list) now.inquiry).1.setQueue list
                ⟨none, .names ticket :: rest⟩,
              (now.call .root (now.settings.question list) now.inquiry).2) := by
        rw [settings_setQueue, inquiry_setQueue, call_setQueue]
      rw [Session.serve]
      split
      · next names hn =>
        refine ih (h.next fun deeds hd => ⟨[.given list ticket names], rfl, ?_⟩)
        have hstep := hd.given hqueue (hnames ▸ hn)
        rwa [settle_setQueue, setQueue_setQueue] at hstep
      · next hn =>
        split
        · next after sent waiter hc =>
          refine h.next fun deeds hd => ⟨[.asked list ticket sent], rfl, ?_⟩
          rw [hc] at hcall
          have hstep := hd.asked hqueue (hnames ▸ hn) hcall
          rwa [setQueue_setQueue] at hstep
        · next after error hc =>
          refine ih (h.next fun deeds hd => ⟨[.refused list ticket error], rfl, ?_⟩)
          rw [hc] at hcall
          have hstep := hd.refused hqueue (hnames ▸ hn) hcall
          rwa [settle_setQueue, setQueue_setQueue] at hstep

/-- Serving a list that nobody has adds nobody to those who have come. -/
theorem Tells.serveList (h : start.Tells now come) {list : NameList}
    (hf : (now.queueOf list).holder = none) : start.Tells (serveList list now) come := by
  have hsame : (now.setQueue list ⟨none, []⟩).setQueue list ⟨none, (now.queueOf list).line⟩
      = now := by
    rw [setQueue_setQueue, ← hf]
    exact setQueue_self now list
  rw [serveList_eq]
  exact Tells.serve list _ (hsame.symm ▸ h)

/-- A query ends, and then the others are served. -/
theorem Tells.endQuery (h : start.Tells now come) {list : NameList} {query : Query}
    (hq : (now.queueOf list).holder = some query) :
    start.Tells (now.endQuery list query) come := by
  have hqueue : now.queueOf list = ⟨some query, (now.queueOf list).line⟩ := by
    rw [← hq]
  let result := namesOf list (now.replyTo query.waiter)
  let told := { now with names := learnt now.names list result }.settle query.ticket
    (.names result)
  have hended : start.Tells (told.setQueue list ⟨none, (now.queueOf list).line⟩) come :=
    h.next fun deeds hd => ⟨[.ended list query.ticket (now.replyTo query.waiter)], rfl,
      hd.ended hqueue⟩
  have hline : (told.queueOf list).line = (now.queueOf list).line := by
    cases list <;> rfl
  -- Who had the list makes no difference for those who are served.
  have hserve : now.endQuery list query
      = Session.serveList list (told.setQueue list ⟨none, (now.queueOf list).line⟩) := by
    have hend : now.endQuery list query = Session.serveList list told := rfl
    rw [hend, serveList_eq, serveList_eq, setQueue_setQueue, queueOf_setQueue_self, hline]
  rw [hserve]
  exact hended.serveList (by rw [queueOf_setQueue_self])

/-- Going on with a list adds nobody to those who have come. -/
theorem Tells.resumeList (h : start.Tells now come) (list : NameList) :
    start.Tells (resumeList list now) come := by
  unfold Session.resumeList
  split
  · next hf => exact h.serveList hf
  · next query hq =>
    split
    · exact h.endQuery hq
    · exact h

theorem Tells.resume (h : start.Tells now come) : start.Tells now.resume come :=
  (h.resumeList .base).resumeList .core

/-- A caller who asks for names is the last one who has come. -/
theorem Tells.askNames (h : start.Tells now come) (list : NameList) :
    start.Tells (now.askNames list).1 (list :: come) := by
  obtain ⟨deeds, hdeeds, hcome⟩ := h
  have hcame : start.Tells
      ({ now with nextTicket := now.nextTicket + 1 }.stand list (.names now.nextTicket))
      (list :: come) :=
    ⟨_, hdeeds.came list, congrArg (list :: ·) hcome⟩
  exact hcame.resume

/-- Giving up a query adds nobody to those who have come. -/
theorem Tells.expireNames (h : start.Tells now come) (list : NameList) :
    start.Tells (now.expireNames list) come := by
  unfold Session.expireNames
  split
  · next query hq => exact (h.endQuery hq).resume
  · exact h

theorem Tells.close (h : start.Tells now come) : start.Tells now.close.1 come :=
  Tells.resume (h.next fun _ hd => ⟨[], rfl, hd.leaving⟩)

/-- Bytes come in as one response after the other. -/
theorem Tells.receive (h : start.Tells now come) (chunk : Bytes) :
    start.Tells (now.receive chunk).1 come := by
  have hone : ∀ (state : Session × Nat) (delivery : Delivery), start.Tells state.1 come →
      start.Tells (accept state delivery).1 come := by
    intro state delivery hs
    rw [accept_eq]
    cases delivery with
    | violation why consumed => exact hs.kept rfl rfl rfl id
    | response answer =>
      rw [Router.accept_response]
      exact hs.next fun _ hd => ⟨[.arrived answer], rfl, hd.arrived answer⟩
  have hall : ∀ (deliveries : List Delivery) (state : Session × Nat),
      start.Tells state.1 come → start.Tells (deliveries.foldl accept state).1 come := by
    intro deliveries
    induction deliveries with
    | nil => exact fun _ hs => hs
    | cons delivery rest ih => exact fun state hs => ih _ (hone state delivery hs)
  exact hall _ _ (h.kept rfl rfl rfl id)

/-- A job that nobody waits for is sent without anybody coming to a list. -/
theorem Tells.send (h : start.Tells now come) (path : Namespace) (code : String) {job : Job}
    (hp : job.IsPassive) (hw : job.waiter = none) :
    start.Tells (now.send path code job).1 come :=
  h.next fun _ hd => ⟨_, by cases (now.send path code job).2 <;> rfl, hd.sent path code hp hw⟩

theorem Tells.call (h : start.Tells now come) (path : Namespace) (code : String) {job : Job}
    (hp : job.IsPassive) : start.Tells (now.call path code job).1 come :=
  h.next fun _ hd => ⟨_, by cases (now.call path code job).2 <;> rfl, hd.called path code hp⟩

/-- Every move comes to a row of such things. Who comes to a list with it is on the
record. -/
theorem Tells.act (h : start.Tells now come) {move : Move} (hm : move.IsPlain) :
    start.Tells (now.act move) (move.visit?.toList ++ come) := by
  cases move with
  | send path code job => exact h.send path code hm.1 hm.2
  | call path code job => exact h.call path code hm
  | eval path code => exact h.call path code ⟨rfl, rfl⟩
  | askNames list => exact h.askNames list
  | expireNames list => exact h.expireNames list
  | receive chunk => exact h.receive chunk
  | resume => exact h.resume
  | feed chunk => exact (h.receive chunk).resume
  | hangUp =>
    unfold Session.act Session.hangUp
    dsimp only
    split
    · exact h.kept rfl rfl rfl fun hc => absurd hc (by simp)
    · exact h
  | readFails cause =>
    unfold Session.act Session.readFails
    dsimp only
    split
    · exact h.kept rfl rfl rfl fun hc => absurd hc (by simp)
    · exact h
  | breakWrites =>
    unfold Session.act Session.breakWrites
    dsimp only
    split
    · exact h.kept rfl rfl rfl id
    · exact h
  | close => exact h.close
  | allowSpills canSpill => exact h.kept rfl rfl rfl id
  | place attachment => exact h.kept rfl rfl rfl id
  | deleteFile path =>
    rw [Session.act, deleteFile_eq]
    exact h.kept rfl rfl rfl id

/-- Over a run of plain moves the callers on the record are those whom the moves bring. -/
theorem Tells.run (h : start.Tells now come) {moves : List Move}
    (hm : ∀ move ∈ moves, move.IsPlain) :
    start.Tells (now.run moves) ((moves.filterMap Move.visit?).reverse ++ come) := by
  induction moves generalizing now come with
  | nil => exact h
  | cons move rest ih =>
    obtain ⟨hfirst, hrest⟩ := List.forall_mem_cons.mp hm
    have hall := ih (h.act hfirst) hrest
    have hone : move.visit?.toList.reverse = move.visit?.toList := by cases move.visit? <;> rfl
    rwa [filterMap_cons_toList, List.reverse_append, List.append_assoc, hone]

end Tells

end ReplLink.Session
