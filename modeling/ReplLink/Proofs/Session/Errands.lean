import ReplLink.Proofs.Session.Inert
import ReplLink.Proofs.Session.Renumbering

/-!
# Nobody who has come is lost

A caller who asks for names or closes the session stands in a line, or has a list while
its query is in flight, or has got what it came for. It is in one of these places at any
time, and in no two of them. A session only moves callers from one place to another: what
it keeps is the list of all of them, up to the order. So as soon as both lists are free,
everybody has got what it came for.
-/

namespace ReplLink

open ReplLink.Routing ReplLink.Stream ReplLink.Text

section Definitions

/-- What a caller has come for. -/
structure Errand where
  /-- The caller. -/
  ticket : Nat
  /-- It closes the session. Otherwise it wants names. -/
  closes : Bool
  deriving DecidableEq, Repr

/-- The errand of a claim. -/
def Claim.errand : Claim → Errand
  | .names ticket => ⟨ticket, false⟩
  | .close ticket _ => ⟨ticket, true⟩

/-- The errand of who has got something. -/
def Settled.errand (ticket : Nat) : Settled → Errand
  | .names _ => ⟨ticket, false⟩
  | .closed _ => ⟨ticket, true⟩

/-- The errand of who has a list. -/
def Queue.held (queue : Queue) : List Errand :=
  queue.holder.toList.map fun query => ⟨query.ticket, false⟩

/-- The errands of those who want a list. -/
def Queue.errands (queue : Queue) : List Errand := queue.held ++ queue.line.map Claim.errand

namespace Session

/-- The errands of all who have come, wherever they are. -/
def errands (session : Session) : List Errand :=
  session.baseQueue.errands ++ (session.coreQueue.errands
    ++ session.settled.map fun pair => pair.2.errand pair.1)

/-- The errand that a move brings, of a caller with this number. -/
def Move.errands (ticket : Nat) : Move → List Errand
  | .askNames _ => [⟨ticket, false⟩]
  | .close => [⟨ticket, true⟩]
  | _ => []

/-- Some have come meanwhile and nobody is lost. -/
structure Keeps (come : List Errand) (before after : Session) : Prop where
  /-- All who were there are there, and those who have come. -/
  errands : after.errands.Perm (come ++ before.errands)
  /-- No number is given out again. -/
  next : before.nextTicket ≤ after.nextTicket

/-- No two errands are of the same caller, and all callers have got their numbers. -/
structure Enrolled (session : Session) : Prop where
  /-- Each caller has one errand. -/
  apart : (session.errands.map (·.ticket)).Nodup
  /-- Its number was given out. -/
  given : ∀ errand ∈ session.errands, errand.ticket < session.nextTicket

end Session

end Definitions

namespace Session

section Deeds

variable {before now after : Session} {come : List Errand}

/-- Errands that are kept by one step and by the next are kept by both. -/
theorem Keeps.trans {later : List Errand} (h : Keeps come before now)
    (hl : Keeps later now after) : Keeps (later ++ come) before after where
  errands := by
    rw [List.append_assoc]
    exact hl.errands.trans (h.errands.append_left later)
  next := Nat.le_trans h.next hl.next

/-- What leaves the standing alone leaves everybody where they are. -/
theorem errands_congr (h : after.standing = before.standing) : after.errands = before.errands := by
  have hbase : after.baseQueue = before.baseQueue := congrArg Standing.baseQueue h
  have hcore : after.coreQueue = before.coreQueue := congrArg Standing.coreQueue h
  have hsettled : after.settled = before.settled := congrArg Standing.settled h
  rw [errands, errands, hbase, hcore, hsettled]

/-- Where the errands are the same, nobody has come or gone. -/
theorem Keeps.of_eq (h : after.errands = before.errands)
    (hn : before.nextTicket ≤ after.nextTicket) : Keeps [] before after :=
  ⟨List.Perm.of_eq h, hn⟩

/-- An errand that is settled is one of the errands from then on. -/
theorem errands_settle (session : Session) (ticket : Nat) (settled : Settled) :
    (session.settle ticket settled).errands.Perm (settled.errand ticket :: session.errands) := by
  rw [errands, ← List.append_assoc]
  refine List.perm_middle.trans ?_
  rw [List.append_assoc]
  exact List.Perm.refl _

/-- A queue takes the place of another one. -/
theorem errands_setQueue (session : Session) (list : NameList) (queue : Queue) :
    ((session.queueOf list).errands ++ (session.setQueue list queue).errands).Perm
      (queue.errands ++ session.errands) := by
  refine List.perm_iff_count.mpr fun errand => ?_
  cases list with
  | base =>
    simp only [errands, setQueue, queueOf, List.count_append]
    omega
  | core =>
    simp only [errands, setQueue, queueOf, List.count_append]
    omega

/-- An errand that stands in line is one of the errands from then on. -/
theorem errands_stand (session : Session) (list : NameList) (claim : Claim) :
    (session.stand list claim).errands.Perm (claim.errand :: session.errands) := by
  have hset := List.perm_iff_count.mp (errands_setQueue session list
    { session.queueOf list with line := (session.queueOf list).line ++ [claim] })
  refine List.perm_iff_count.mpr fun errand => ?_
  have hcount := hset errand
  simp only [Queue.errands, Queue.held, List.map_append, List.count_append, List.map_cons,
    List.map_nil] at hcount
  rw [stand, List.count_cons]
  rw [List.count_cons, List.count_nil] at hcount
  omega

/-- Who empties the first list goes on to the second one, and from there has closed the
session. -/
theorem errands_vacate (session : Session) (list : NameList) (ticket : Nat) (wasOpen : Bool) :
    (session.vacate list ticket wasOpen).errands.Perm (⟨ticket, true⟩ :: session.errands) := by
  cases list with
  | base =>
    exact errands_stand { session with names := { session.names with base := none } } .core
      (.close ticket wasOpen)
  | core => exact errands_settle _ ticket (.closed _)

/-- Tickets go up when somebody calls. -/
theorem next_call (session : Session) (path : Namespace) (code : String) (job : Job) :
    session.nextTicket ≤ (session.call path code job).1.nextTicket := by
  have hnext := nextTicket_call session path code job
  cases hc : session.call path code job with
  | mk after result =>
    rw [hc] at hnext
    cases result with
    | ok sent => exact hnext.2 ▸ Nat.le_succ _
    | error error => exact Nat.le_of_eq hnext.symm

/-- A call keeps the errands, since nobody comes to a list with it. -/
theorem keeps_call (session : Session) (path : Namespace) (code : String) (job : Job) :
    Keeps [] session (session.call path code job).1 :=
  .of_eq (errands_congr (standing_call session path code job)) (next_call session path code job)

/-- Those whose claims are served have got what they came for, or have the list, or still
stand in the line. -/
theorem keeps_serve (list : NameList) (claims : List Claim) (session : Session) :
    ((serve list claims session).2.errands ++ (serve list claims session).1.errands).Perm
        (claims.map Claim.errand ++ session.errands) ∧
      session.nextTicket ≤ (serve list claims session).1.nextTicket := by
  induction claims generalizing session with
  | nil => exact ⟨List.Perm.refl _, Nat.le_refl _⟩
  | cons claim rest ih =>
    -- The first one is in another place now, and the others are served after it.
    have hnext {now : Session} (hk : Keeps [claim.errand] session now) :
        ((serve list rest now).2.errands ++ (serve list rest now).1.errands).Perm
            ((claim :: rest).map Claim.errand ++ session.errands) ∧
          session.nextTicket ≤ (serve list rest now).1.nextTicket := by
      refine ⟨(ih now).1.trans ?_, Nat.le_trans hk.next (ih now).2⟩
      exact (hk.errands.append_left _).trans List.perm_middle
    cases claim with
    | close ticket wasOpen =>
      exact hnext ⟨errands_vacate session list ticket wasOpen,
        Nat.le_of_eq (nextTicket_vacate session list ticket wasOpen).symm⟩
    | names ticket =>
      have hcall := keeps_call session .root (session.settings.question list) session.inquiry
      rw [serve]
      split
      · exact hnext ⟨errands_settle session ticket _, Nat.le_refl _⟩
      · split
        · next after sent waiter hc =>
          rw [hc] at hcall
          exact ⟨hcall.errands.append_left _, hcall.next⟩
        · next after error hc =>
          rw [hc] at hcall
          have hsettled : Keeps [⟨ticket, false⟩] after
              (after.settle ticket (.names (.error error))) :=
            ⟨errands_settle after ticket _, Nat.le_refl _⟩
          exact hnext (hcall.trans hsettled)

/-- When the line of a list is served, only the one who had the list is not there any more. -/
theorem keeps_serveList (list : NameList) (session : Session) :
    ((session.queueOf list).held ++ (serveList list session).errands).Perm session.errands ∧
      session.nextTicket ≤ (serveList list session).nextTicket := by
  let idle := session.setQueue list ⟨none, []⟩
  let served := serve list (session.queueOf list).line idle
  have hidle : ((session.queueOf list).errands ++ idle.errands).Perm session.errands :=
    errands_setQueue session list ⟨none, []⟩
  obtain ⟨hserved, hnext⟩ := keeps_serve list (session.queueOf list).line idle
  have hfree : served.1.queueOf list = ⟨none, []⟩ :=
    (queueOf_serve idle id _).trans (queueOf_setQueue_self session list _)
  have hend : (served.1.setQueue list served.2).errands.Perm
      (served.2.errands ++ served.1.errands) := by
    have hset := errands_setQueue served.1 list served.2
    rwa [hfree] at hset
  have hlist : serveList list session = served.1.setQueue list served.2 :=
    serveList_eq list session
  rw [hlist]
  constructor
  · have hall := (hend.trans hserved).append_left (session.queueOf list).held
    rw [← List.append_assoc] at hall
    exact hall.trans hidle
  · have hstart : idle.nextTicket = session.nextTicket := by cases list <;> rfl
    have hsame : (served.1.setQueue list served.2).nextTicket = served.1.nextTicket := by
      cases list <;> rfl
    rw [hsame, ← hstart]
    exact hnext

/-- Who had the list has got what it came for when its query ends. -/
theorem keeps_endQuery {session : Session} {list : NameList} {query : Query}
    (hq : (session.queueOf list).holder = some query) :
    Keeps [] session (session.endQuery list query) := by
  have hend (names : KnownNames) (result : Except SessionError (List String)) :
      Keeps [] session
        (serveList list ({ session with names }.settle query.ticket (.names result))) := by
    let ended := { session with names }.settle query.ticket (.names result)
    have hqueue : ended.queueOf list = session.queueOf list := by
      cases list <;> rfl
    have hheld : (ended.queueOf list).held = [⟨query.ticket, false⟩] := by
      rw [hqueue, Queue.held, hq]
      rfl
    obtain ⟨hserved, hnext⟩ := keeps_serveList list ended
    rw [hheld] at hserved
    have hsettled : ended.errands.Perm (⟨query.ticket, false⟩ :: session.errands) :=
      errands_settle { session with names } query.ticket (.names result)
    exact ⟨(hserved.trans hsettled).cons_inv, hnext⟩
  unfold Session.endQuery
  dsimp only
  split
  · exact hend _ _
  · exact hend _ _

/-- Going on with a list keeps the errands. -/
theorem keeps_resumeList (list : NameList) (session : Session) :
    Keeps [] session (resumeList list session) := by
  unfold resumeList
  split
  · next hf =>
    have hserved := keeps_serveList list session
    rw [Queue.held, hf] at hserved
    exact ⟨hserved.1, hserved.2⟩
  · next query hq =>
    split
    · exact keeps_endQuery hq
    · exact .of_eq rfl (Nat.le_refl _)

/-- Going on with both lists keeps the errands. -/
theorem keeps_resume (session : Session) : Keeps [] session session.resume :=
  (keeps_resumeList .base session).trans (keeps_resumeList .core _)

/-- A caller comes and stands in a line. -/
theorem keeps_arrival (list : NameList) (claim : Claim) {come : Session}
    (hc : come.errands = before.errands) (hn : before.nextTicket ≤ come.nextTicket) :
    Keeps [claim.errand] before (come.stand list claim).resume := by
  have hstood : Keeps [claim.errand] come (come.stand list claim) :=
    ⟨errands_stand come list claim, by cases list <;> exact Nat.le_refl _⟩
  exact ((Keeps.of_eq hc hn).trans hstood).trans (keeps_resume _)

end Deeds

section Runs

variable {session : Session}

/-- Sending keeps the errands. -/
theorem keeps_send (session : Session) (path : Namespace) (code : String) (job : Job) :
    Keeps [] session (session.send path code job).1 := by
  have hnext : (session.send path code job).1.nextTicket = session.nextTicket :=
    congrArg Callers.next (registers_send session path code job).callers
  exact .of_eq (errands_congr (standing_send session path code job)) (Nat.le_of_eq hnext.symm)

/-- Bytes that come in keep the errands. -/
theorem keeps_receive (session : Session) (chunk : Bytes) :
    Keeps [] session (session.receive chunk).1 := by
  have hnext : (session.receive chunk).1.nextTicket = session.nextTicket := by
    rw [receive_eq]
  exact .of_eq (errands_congr (standing_receive session chunk)) (Nat.le_of_eq hnext.symm)

/-- A move brings its own errand, whose caller gets the next number. -/
theorem keeps_act (session : Session) (move : Move) :
    Keeps (move.errands session.nextTicket)
      { session with
        nextTicket := session.nextTicket + (move.errands session.nextTicket).length }
      (session.act move) := by
  cases move with
  | send path code job => exact keeps_send session path code job
  | call path code job => exact keeps_call session path code job
  | eval path code => exact keeps_call session path code session.evaluation
  | askNames list =>
    exact keeps_arrival list (.names session.nextTicket) rfl (Nat.le_refl _)
  | expireNames list =>
    rw [act, expireNames]
    split
    · next query hq => exact (keeps_endQuery hq).trans (keeps_resume _)
    · exact .of_eq rfl (Nat.le_refl _)
  | receive chunk => exact keeps_receive session chunk
  | resume => exact keeps_resume session
  | feed chunk => exact (keeps_receive session chunk).trans (keeps_resume _)
  | hangUp =>
    rw [act, hangUp]
    split
    · exact .of_eq rfl (Nat.le_refl _)
    · exact .of_eq rfl (Nat.le_refl _)
  | readFails cause =>
    rw [act, readFails]
    split
    · exact .of_eq rfl (Nat.le_refl _)
    · exact .of_eq rfl (Nat.le_refl _)
  | breakWrites =>
    rw [act, breakWrites]
    split
    · exact .of_eq rfl (Nat.le_refl _)
    · exact .of_eq rfl (Nat.le_refl _)
  | close => exact keeps_arrival .base (.close session.nextTicket _) rfl (Nat.le_refl _)
  | allowSpills canSpill => exact .of_eq rfl (Nat.le_refl _)
  | place attachment => exact .of_eq rfl (Nat.le_refl _)
  | deleteFile path => exact .of_eq rfl (Nat.le_refl _)

/-- The caller of a move, if it has one, is a new one. -/
theorem Enrolled.act (h : session.Enrolled) (move : Move) : (session.act move).Enrolled := by
  obtain ⟨hall, hnext⟩ := keeps_act session move
  have hfresh : ∀ errand ∈ move.errands session.nextTicket,
      errand.ticket = session.nextTicket ∧ errand.ticket < (session.act move).nextTicket := by
    cases move with
    | askNames list =>
      refine List.forall_mem_singleton.mpr ⟨rfl, ?_⟩
      exact hnext
    | close =>
      refine List.forall_mem_singleton.mpr ⟨rfl, ?_⟩
      exact hnext
    | _ => exact fun errand hm => absurd hm List.not_mem_nil
  have hnew : ((move.errands session.nextTicket).map (·.ticket)).Nodup := by
    cases move <;> simp [Move.errands]
  constructor
  · refine (hall.map _).nodup_iff.mpr ?_
    rw [List.map_append]
    refine List.nodup_append.mpr ⟨hnew, h.apart, fun first hf second hs => ?_⟩
    obtain ⟨arrived, ha, rfl⟩ := List.mem_map.mp hf
    obtain ⟨known, hk, rfl⟩ := List.mem_map.mp hs
    rw [(hfresh arrived ha).1]
    exact Nat.ne_of_gt (h.given known hk)
  · intro errand hm
    rcases List.mem_append.mp (hall.mem_iff.mp hm) with harrived | hknown
    · exact (hfresh errand harrived).2
    · exact Nat.lt_of_lt_of_le (h.given errand hknown) (Nat.le_of_add_right_le hnext)

/-- Any moves leave everybody on the roll. -/
theorem Enrolled.run (h : session.Enrolled) (moves : List Move) :
    (session.run moves).Enrolled := by
  induction moves generalizing session with
  | nil => exact h
  | cons move rest ih => exact ih (h.act move)

/-- Nobody is missing on the roll of a session that was just opened. -/
theorem enrolled_opened (context address : String) (settings : Settings) (frontEnd : FrontEnd)
    (spillDirectory : String) (draw : Nat → Nat) :
    (opened context address settings frontEnd spillDirectory draw).Enrolled :=
  ⟨List.nodup_nil, fun _ hm => absurd hm List.not_mem_nil⟩

/-- Who has come once is there ever after. -/
theorem mem_errands_run {errand : Errand} (h : errand ∈ session.errands) (moves : List Move) :
    errand ∈ (session.run moves).errands := by
  induction moves generalizing session with
  | nil => exact h
  | cons move rest ih =>
    exact ih ((keeps_act session move).errands.mem_iff.mpr (List.mem_append_right _ h))

theorem ticket_errand (ticket : Nat) (settled : Settled) :
    (settled.errand ticket).ticket = ticket := by
  cases settled <;> rfl

/-- What somebody has got is found under its number. -/
theorem Enrolled.settledFor_of_mem (h : session.Enrolled) {ticket : Nat} {settled : Settled}
    (hm : (ticket, settled) ∈ session.settled) : session.settledFor ticket = some settled := by
  have hapart : (session.settled.map (·.1)).Nodup := by
    have hkeys := h.apart
    rw [errands, List.map_append, List.map_append, List.map_map] at hkeys
    simpa only [Function.comp_def, ticket_errand] using
      (List.nodup_append.mp (List.nodup_append.mp hkeys).2.1).2.1
  obtain ⟨front, back, hsplit⟩ := List.append_of_mem hm
  refine List.lookup_eq_some_iff.mpr ⟨front, back, hsplit, fun pair hp => ?_⟩
  rw [hsplit, List.map_append, List.nodup_append] at hapart
  have hne := hapart.2.2 pair.1 (List.mem_map_of_mem hp) ticket List.mem_cons_self
  exact bne_iff_ne.mpr hne.symm

/-- Where nobody stands in a line and no query is in flight, everybody has got what it came
for. -/
theorem Enrolled.settledFor (h : session.Enrolled)
    (hq : ∀ list, session.queueOf list = ⟨none, []⟩) {errand : Errand}
    (hm : errand ∈ session.errands) :
    ∃ settled : Settled, session.settledFor errand.ticket = some settled ∧
      settled.errand errand.ticket = errand := by
  have hall : session.errands = session.settled.map fun pair => pair.2.errand pair.1 := by
    have hbase : session.baseQueue = ⟨none, []⟩ := hq .base
    have hcore : session.coreQueue = ⟨none, []⟩ := hq .core
    rw [errands, hbase, hcore]
    rfl
  rw [hall] at hm
  obtain ⟨⟨ticket, settled⟩, hfound, rfl⟩ := List.mem_map.mp hm
  rw [ticket_errand]
  exact ⟨settled, h.settledFor_of_mem hfound, rfl⟩

end Runs

end Session

end ReplLink
