import ReplLink.Proofs.Request.Lines
import ReplLink.Proofs.Session.Moves
import ReplLink.Proofs.Session.Recorded

/-!
# A session with one caller

Who is the only caller of a session and does one thing after the other never stands in
line. As long as the connection is up, what it asks for is done at once: code is written,
names that are known are there, and a query for others is in flight.
-/

namespace ReplLink.Session

open ReplLink.Routing ReplLink.Stream ReplLink.Text

section Definitions

/-- Nothing stands in the way of a request. -/
structure IsOpen (session : Session) : Prop where
  /-- The interpreter is there. -/
  connected : session.connected = true
  /-- Lines can be written. -/
  channel : session.channel = .up
  /-- Code can be spilled. -/
  canSpill : session.canSpill = true

/-- Nobody waits for names. -/
def IsIdle (session : Session) : Prop := ∀ list, session.queueOf list = ⟨none, []⟩

/-- A query for a list is in flight, and nobody else waits for names. -/
structure IsAsking (session : Session) (list : NameList) (query : Query) : Prop where
  /-- The query is the list's. -/
  asking : session.queueOf list = ⟨some query, []⟩
  /-- Nobody wants the other list. -/
  others : ∀ other, other ≠ list → session.queueOf other = ⟨none, []⟩

/-- The line of a request. -/
def lineFor (session : Session) (charge : Charge) : Sent :=
  let code :=
    if charge.spilled then
      loaderFor session.settings.fileLoader (session.spillPath charge.id)
    else charge.code
  ⟨charge.id, Request.encode ⟨["Main"], charge.id, code⟩⟩

/-- The session with one more request of a caller who waits, with its line written. -/
def posted (session : Session) (charge : Charge) : Session :=
  { session.entered charge with
    written := session.written ++ [session.lineFor charge]
    history := remember session.settings.historyLimit session.history (session.lineFor charge)
    nextTicket := session.nextTicket + 1 }

/-- What lies where the code of a request is spilled to. -/
def fileFor (session : Session) (id : String) : Option FileEntry :=
  session.router.files.get? (session.spillPath id)

/-- A line carries code to the outermost namespace: as it stands, or in a file that it
loads if the code is longer than the limit. -/
def Carries (settings : Settings) (pathOf : String → String) (code : String) (sent : Sent)
    (file : Option FileEntry) : Prop :=
  if settings.longestInline < Utf8.size code.toList then
    Request.decode sent.line
        = .ok ⟨["Main"], sent.id, loaderFor settings.fileLoader (pathOf sent.id)⟩ ∧
      file = some (.spilled code)
  else Request.decode sent.line = .ok ⟨["Main"], sent.id, code⟩

/-- The session when the query for a list has ended. -/
def told (session : Session) (list : NameList) (query : Query) : Session :=
  let result := namesOf list (session.replyTo query.waiter)
  ({ session with names := learnt session.names list result }.settle query.ticket
    (.names result)).setQueue list ⟨none, []⟩

end Definitions

section Requests

variable {session start : Session}

/-- In an open session a request is written. -/
theorem send_of_open (h : session.IsOpen) (code : String) (job : Job) :
    session.send .root code job
      = ((session.entered (session.chargeFor code job)).write (session.chargeFor code job).id
          (session.lineFor (session.chargeFor code job)).line) := by
  have htokens : Namespace.root.tokens = .ok ["Main"] := rfl
  have hspill : ¬ (!session.canSpill) = true := by simp [h.canSpill]
  unfold send
  rw [if_neg (by simp [h.connected]), htokens]
  dsimp only
  rw [if_neg hspill]
  unfold lineFor chargeFor
  cases session.mustSpill code job with
  | true => rfl
  | false => rfl

/-- An open session writes the line and remembers it. -/
theorem write_of_open (h : session.IsOpen) (id line : String) :
    session.write id line
      = ({ session with
            written := session.written ++ [⟨id, line⟩]
            history := remember session.settings.historyLimit session.history ⟨id, line⟩ },
          .ok ⟨id, line⟩) := by
  unfold write
  rw [h.channel]

/-- A caller who waits for one gets the next number. -/
theorem call_of_open (h : session.IsOpen) (code : String) (job : Job) :
    session.call .root code job
      = (session.posted (session.chargeFor code { job with waiter := some session.nextTicket }),
          .ok (session.lineFor
              (session.chargeFor code { job with waiter := some session.nextTicket }),
            session.nextTicket)) := by
  have hentered : (session.entered (session.chargeFor code
      { job with waiter := some session.nextTicket })).IsOpen :=
    ⟨h.connected, h.channel, h.canSpill⟩
  unfold call
  dsimp only
  rw [send_of_open h, write_of_open hentered]
  rfl

/-- What follows for the session. -/
theorem IsOpen.posted (h : session.IsOpen) (charge : Charge) : (session.posted charge).IsOpen :=
  ⟨h.connected, h.channel, h.canSpill⟩

theorem writes_posted (h : session.IsOpen) (code : String) (job : Job) :
    Writes session (some session.nextTicket)
      (session.posted (session.chargeFor code { job with waiter := some session.nextTicket }))
      (some (session.lineFor
        (session.chargeFor code { job with waiter := some session.nextTicket }))) := by
  have hwrites := writes_call session .root code job
  rwa [call_of_open h] at hwrites

theorem Outstanding.posted (ho : session.Outstanding) (h : session.IsOpen) (code : String)
    {job : Job} (hp : job.IsPassive) :
    (session.posted
      (session.chargeFor code { job with waiter := some session.nextTicket })).Outstanding := by
  have hcall := ho.call .root code hp
  rwa [call_of_open h] at hcall

theorem Reaches.posted (hr : start.Reaches session) (h : session.IsOpen) (code : String)
    {job : Job} (hp : job.IsPassive) (ha : job.attached = []) :
    start.Reaches (session.posted
      (session.chargeFor code { job with waiter := some session.nextTicket })) := by
  have hcall := hr.call .root code hp (JobOf.keepsOff_of_attached_nil ha)
  rwa [call_of_open h] at hcall

/-- The line is read as the code, or as what loads its file. -/
theorem decode_lineFor (session : Session) (charge : Charge) :
    Request.decode (session.lineFor charge).line
      = .ok ⟨["Main"], charge.id,
          if charge.spilled then
            loaderFor session.settings.fileLoader (session.spillPath charge.id)
          else charge.code⟩ := by
  have htoken : ∀ token ∈ ["Main"], Namespace.isToken token = true := by decide
  exact Request.decode_of_record (List.cons_ne_nil _ _) htoken (.inr (Request.toList_encode _))

/-- The code is carried, in a file if it is long. -/
theorem carries_posted (h : session.IsOpen) {frontEnd : FrontEnd}
    (hs : start.router.IsCharged start.spillPath frontEnd []) (hr : start.Reaches session)
    (code : String) {job : Job} (hp : job.IsPassive) (ha : job.attached = [])
    (hv : job.viaFile = false) {charge : Charge}
    (hc : charge = session.chargeFor code { job with waiter := some session.nextTicket }) :
    Carries session.settings session.spillPath code (session.lineFor charge)
      ((session.posted charge).fileFor charge.id) := by
  have hspilled : charge.spilled
      = decide (session.settings.longestInline < Utf8.size code.toList) := by
    rw [hc, chargeFor, mustSpill, JobOf.attachment, ha, hv]
    rfl
  have hdecode := decode_lineFor session charge
  unfold Carries
  split
  · next hlong =>
    rw [hspilled, decide_eq_true hlong, if_pos rfl] at hdecode
    refine ⟨hdecode, ?_⟩
    obtain ⟨charges, hevolves⟩ := hr
    have hentered : (session.entered charge).IsOpen := ⟨h.connected, h.channel, h.canSpill⟩
    have hsend := send_of_open h code { job with waiter := some session.nextTicket }
    rw [← hc, write_of_open hentered] at hsend
    have hpassive : JobOf.IsPassive { job with waiter := some session.nextTicket } := hp
    have hkeeps : JobOf.KeepsOff start.spillPath { job with waiter := some session.nextTicket } :=
      JobOf.keepsOff_of_attached_nil ha
    obtain ⟨hdirectory, hcharged⟩ := (hevolves.sent hpassive hkeeps hsend).isCharged hs
    -- The request is outstanding, so the file of its code is there.
    refine (hcharged.accounts.spills _ _).mpr ⟨_, List.mem_cons_self, ?_, rfl, ?_⟩
    · rw [← decide_eq_true hlong, ← hspilled, hc]
      rfl
    · rw [← spillPath_congr hdirectory]
      rfl
  · next hshort =>
    rw [hspilled, decide_eq_false hshort, if_neg (by simp)] at hdecode
    rw [hdecode, hc]
    rfl

end Requests

section Names

variable {session : Session} {list : NameList} {query : Query}

/-- Names that are known already teach nothing. -/
theorem learnt_of_known {known : KnownNames} {names : List String}
    (h : known.get list = some names) : learnt known list (.ok names) = known := by
  cases list with
  | base => exact congrArg (KnownNames.mk · known.core) h.symm
  | core => exact congrArg (KnownNames.mk known.base) h.symm

theorem fileFor_setQueue (session : Session) (list : NameList) (queue : Queue) (id : String) :
    (session.setQueue list queue).fileFor id = session.fileFor id := by
  cases list <;> rfl

/-- Where nobody wants a list, there is nothing to go on with. -/
theorem resume_of_idle (h : session.IsIdle) : session.resume = session := by
  rw [resume, resumeList_of_idle (h .base), resumeList_of_idle (h .core)]

theorem IsAsking.congr {after : Session} (h : session.IsAsking list query)
    (hs : after.standing = session.standing) : after.IsAsking list query where
  asking := (queueOf_congr hs list).trans h.asking
  others := fun other ho => (queueOf_congr hs other).trans (h.others other ho)

/-- A query takes its place. -/
theorem IsIdle.isAsking (h : session.IsIdle) (list : NameList) (query : Query) :
    (session.setQueue list ⟨some query, []⟩).IsAsking list query where
  asking := queueOf_setQueue_self session list _
  others := fun other ho => (queueOf_setQueue_of_ne session ho _).trans (h other)

theorem IsIdle.settle (h : session.IsIdle) (ticket : Nat) (settled : Settled) :
    (session.settle ticket settled).IsIdle :=
  fun other => (queueOf_settle session other ticket settled).trans (h other)

/-- Names that are known are there at once. -/
theorem askNames_of_known (h : session.IsIdle) {names : List String}
    (hn : session.names.get list = some names) :
    session.askNames list
      = ({ session.settle session.nextTicket (.names (.ok names)) with
            nextTicket := session.nextTicket + 1 }, session.nextTicket) := by
  let come := { session with nextTicket := session.nextTicket + 1 }
  have hidle : come.IsIdle := h
  have hserved : serve list [.names session.nextTicket] come
      = (come.settle session.nextTicket (.names (.ok names)), ⟨none, []⟩) := by
    have hknown : come.names.get list = some names := hn
    rw [serve, hknown]
    rfl
  have hsettled := hidle.settle session.nextTicket (.names (.ok names))
  have hall := (resume_stand hidle hserved hsettled).trans
    ((congrArg _ (hsettled list).symm).trans (setQueue_self _ list))
  exact congrArg (·, session.nextTicket) hall

/-- For others a query is in flight. -/
theorem askNames_of_open (h : session.IsIdle) (ho : session.IsOpen)
    (hn : session.names.get list = none) :
    let come := { session with nextTicket := session.nextTicket + 1 }
    session.askNames list
      = ((come.posted (come.chargeFor (session.settings.question list)
            { session.inquiry with waiter := some (session.nextTicket + 1) })).setQueue list
          ⟨some ⟨session.nextTicket, session.nextTicket + 1⟩, []⟩, session.nextTicket) := by
  intro come
  have hidle : come.IsIdle := h
  have hopen : come.IsOpen := ⟨ho.connected, ho.channel, ho.canSpill⟩
  have hserved : serve list [.names session.nextTicket] come
      = (come.posted (come.chargeFor (session.settings.question list)
            { session.inquiry with waiter := some (session.nextTicket + 1) }),
          ⟨some ⟨session.nextTicket, session.nextTicket + 1⟩, []⟩) := by
    have hunknown : come.names.get list = none := hn
    rw [serve, hunknown, call_of_open hopen]
    rfl
  exact congrArg (·, session.nextTicket) (resume_stand hidle hserved hidle)

/-- A query that ends leaves nobody waiting. -/
theorem endQuery_of_asking (h : session.IsAsking list query) :
    session.endQuery list query = session.told list query := by
  let result := namesOf list (session.replyTo query.waiter)
  let ended := { session with names := learnt session.names list result }.settle query.ticket
    (.names result)
  have hline : (ended.queueOf list).line = [] := by
    have hsame : ended.queueOf list = session.queueOf list := by cases list <;> rfl
    rw [hsame, h.asking]
  have hend : session.endQuery list query = serveList list ended := rfl
  rw [hend, serveList_eq, hline, serve, setQueue_setQueue]
  rfl

/-- When the only caller has been told, nobody is left waiting for names. -/
theorem isIdle_told (h : session.IsAsking list query) : (session.told list query).IsIdle := by
  intro other
  unfold told
  by_cases ho : other = list
  · rw [ho, queueOf_setQueue_self]
  · rw [queueOf_setQueue_of_ne _ ho, queueOf_settle]
    exact h.others other ho

/-- A query that has been answered ends, and no other one does. -/
theorem resume_of_asking (h : session.IsAsking list query) :
    session.resume
      = if (session.router.wordFor query.waiter).isSome then session.told list query
        else session := by
  have hlist : resumeList list session
      = if (session.router.wordFor query.waiter).isSome then session.told list query
        else session := by
    unfold resumeList
    rw [h.asking]
    dsimp only
    rw [endQuery_of_asking h]
  unfold resume
  cases list with
  | base =>
    rw [hlist]
    split
    · exact resumeList_of_idle (isIdle_told h .core)
    · exact resumeList_of_idle (h.others .core (by decide))
  | core =>
    rw [resumeList_of_idle (h.others .base (by decide))]
    exact hlist

/-- When the time of the only query is up, its caller is told. -/
theorem expireNames_of_asking (h : session.IsAsking list query) :
    session.expireNames list = session.told list query := by
  unfold expireNames
  rw [h.asking]
  dsimp only
  rw [endQuery_of_asking h]
  exact resume_of_idle (isIdle_told h)

/-- To close the session while nobody waits for names goes through both lists at once. -/
theorem close_of_idle (h : session.IsIdle) :
    let left := (shut { session with nextTicket := session.nextTicket + 1 }).1
    let emptied := { left with names := { left.names with base := none } }
    session.close.1
      = emptied.vacate .core session.nextTicket (decide (session.channel ≠ .shut)) := by
  intro left emptied
  let wasOpen := decide (session.channel ≠ .shut)
  have hleft : left.IsIdle := h
  have hemptied : emptied.IsIdle := h
  have hfirst : resumeList .base (left.stand .base (.close session.nextTicket wasOpen))
      = left.vacate .base session.nextTicket wasOpen := resumeList_stand (hleft .base) rfl
  have hstood : left.vacate .base session.nextTicket wasOpen
      = emptied.stand .core (.close session.nextTicket wasOpen) := rfl
  have hsecond : resumeList .core (emptied.stand .core (.close session.nextTicket wasOpen))
      = emptied.vacate .core session.nextTicket wasOpen := resumeList_stand (hemptied .core) rfl
  have hclose : session.close.1
      = (left.stand .base (.close session.nextTicket wasOpen)).resume := rfl
  rw [hclose, resume, hfirst, hstood, hsecond]

/-- Nothing is written then, -/
theorem written_close (h : session.IsIdle) : session.close.1.written = session.written := by
  rw [close_of_idle h]
  rfl

/-- and it is done at once. -/
theorem endedBy_close (h : session.IsIdle) :
    (session.close.1.endedBy session.close.2).isSome := by
  have hticket : session.close.2 = session.nextTicket := rfl
  rw [close_of_idle h, hticket]
  unfold endedBy settledFor vacate settle
  dsimp only
  rw [List.lookup_cons_self]
  rfl

/-- An idle session that is closed is idle again at once. -/
theorem IsIdle.close (h : session.IsIdle) : session.close.1.IsIdle := by
  rw [close_of_idle h]
  exact h

end Names

end ReplLink.Session
