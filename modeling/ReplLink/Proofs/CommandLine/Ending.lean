import ReplLink.Proofs.CommandLine.Answering
import ReplLink.Proofs.Session.Errands

/-!
# How a conversation ends

A conversation ends with a line: with the end of the input, with `:quit`, with code that finds
the connection gone, or with a line that is no text. In front of such a line nothing is waited
for, so no query for names is in flight, and closing the session is done at once. It leaves
nothing of the requests that were still outstanding. A line that is no text ends the
conversation without closing the session, and they stay as they are.
-/

namespace ReplLink.Session

open ReplLink.Routing ReplLink.Text

section Definitions

/-- A move with which neither a job nor a file of somebody else comes. -/
def Move.IsBare : Move → Prop
  | .eval _ _ => True
  | .askNames _ => True
  | .expireNames _ => True
  | .feed _ => True
  | .hangUp => True
  | .readFails _ => True
  | .breakWrites => True
  | .allowSpills _ => True
  | .close => True
  | _ => False

/-- A session has come from another one by such moves. -/
def ComesTo (start session : Session) : Prop :=
  ∃ moves, (∀ move ∈ moves, move.IsBare) ∧ session = start.run moves

/-- A session is closed, and nothing is left of its requests. -/
structure IsTornDown (session : Session) : Prop where
  /-- It is closed and nobody waits for names. -/
  stopped : session.HasStopped
  /-- No request is outstanding. -/
  vacant : session.inFlight = 0
  /-- No spilled code lies on disk, -/
  swept : ∀ path code, session.router.files.get? path ≠ some (.spilled code)
  /-- and nothing else where it would lie. -/
  clear : ∀ id, session.fileFor id = none

end Definitions

section Moves

variable {start session : Session} {context address : String} {settings : Settings}
  {frontEnd : FrontEnd} {spillDirectory : String} {draw : Nat → Nat}

/-- With a bare move neither a job nor a file comes that could be unfair. -/
theorem Move.IsBare.isFair {move : Move} (h : move.IsBare) (session : Session) :
    move.IsFair session := by
  cases move <;> trivial

/-- A bare move sends no job that could register another one when it is ended. -/
theorem Move.IsBare.endsQuietly {move : Move} (h : move.IsBare) (policy : Policy) :
    move.EndsQuietly policy := by
  cases move <;> trivial

/-- Every session comes to itself by no move at all. -/
theorem ComesTo.refl (session : Session) : ComesTo session session :=
  ⟨[], fun _ hm => absurd hm List.not_mem_nil, rfl⟩

/-- One more bare move extends what a session comes to. -/
theorem ComesTo.act (h : start.ComesTo session) (move : Move) (hm : move.IsBare) :
    start.ComesTo (session.act move) := by
  obtain ⟨moves, hmoves, rfl⟩ := h
  refine ⟨moves ++ [move], fun other ho => ?_, ?_⟩
  · rcases List.mem_append.mp ho with ho | ho
    · exact hmoves other ho
    · exact List.mem_singleton.mp ho ▸ hm
  · rw [Session.run, Session.run, List.foldl_append]
    rfl

/-- A session that comes of a newly opened one is tidy. -/
theorem ComesTo.isTidy (hs : start = opened context address settings frontEnd spillDirectory draw)
    (h : start.ComesTo session) : session.IsTidy settings.onClose := by
  obtain ⟨moves, hmoves, rfl⟩ := h
  rw [hs]
  exact (isTidy_opened context address settings frontEnd spillDirectory draw).run
    fun move hm => (hmoves move hm).endsQuietly _

/-- A session that comes of a newly opened one has every held caller enrolled. -/
theorem ComesTo.enrolled
    (hs : start = opened context address settings frontEnd spillDirectory draw)
    (h : start.ComesTo session) : session.Enrolled := by
  obtain ⟨moves, -, rfl⟩ := h
  rw [hs]
  exact (enrolled_opened context address settings frontEnd spillDirectory draw).run moves

/-- A session that comes of a newly opened one balances the requests it has evolved through. -/
theorem ComesTo.balanced
    (hs : start = opened context address settings frontEnd spillDirectory draw)
    (h : start.ComesTo session) :
    ∃ requests, start.Evolves session requests ∧ session.Balanced frontEnd requests := by
  obtain ⟨moves, hmoves, rfl⟩ := h
  obtain ⟨⟨requests, hevolves⟩, hbalanced⟩ :=
    balanced_run hs fun move hm => (hmoves move hm).isFair start
  exact ⟨requests, hevolves, hbalanced requests hevolves⟩

/-- What has stopped has no requests, so it has no files of theirs either. -/
theorem Balanced.isTornDown {requests : List Charge} (h : session.Balanced frontEnd requests)
    (hs : session.HasStopped) : session.IsTornDown := by
  have hnone : requests = [] := by
    have hids : session.router.ids = [] := by
      rw [Router.ids, hs.closed.ended]
      rfl
    have hmap := h.registered
    rw [hids] at hmap
    exact List.map_eq_nil_iff.mp hmap.symm.eq_nil
  have hswept : ∀ path code, session.router.files.get? path ≠ some (.spilled code) := by
    intro path code hf
    obtain ⟨request, hm, -⟩ := (h.spills path code).mp hf
    exact absurd (hnone ▸ hm) List.not_mem_nil
  refine ⟨hs, hs.isInert.vacant, hswept, fun id => ?_⟩
  cases hf : session.fileFor id with
  | none => rfl
  | some entry =>
    have hspilled := h.clear id entry hf
    cases entry with
    | spilled code => exact absurd hf (hswept _ code)
    | attached content => exact absurd hspilled (by simp [FileEntry.isSpilled])
    | directory => exact absurd hspilled (by simp [FileEntry.isSpilled])

/-- To close a session while nobody waits for names tears it down at once. -/
theorem ComesTo.isTornDown_close
    (hs : start = opened context address settings frontEnd spillDirectory draw)
    (h : start.ComesTo session) (hi : session.IsIdle) : session.close.1.IsTornDown := by
  have hclosed : start.ComesTo session.close.1 := h.act .close trivial
  obtain ⟨count, hd⟩ := Option.isSome_iff_exists.mp (endedBy_close hi)
  obtain ⟨requests, -, hbalanced⟩ := hclosed.balanced hs
  exact hbalanced.isTornDown ((hclosed.isTidy hs).hasStopped hd)

end Moves

section Names

variable {session after : Session} {list : NameList} {query : Query}

/-- Who has a list and who has got something make up all callers while a query is in
flight. -/
theorem IsAsking.errands (h : session.IsAsking list query) :
    session.errands
      = ⟨query.ticket, false⟩ :: session.settled.map fun pair => pair.2.errand pair.1 := by
  unfold Session.errands
  cases list with
  | base =>
    have hbase : session.baseQueue = ⟨some query, []⟩ := h.asking
    have hcore : session.coreQueue = ⟨none, []⟩ := h.others .core (by decide)
    rw [hbase, hcore]
    rfl
  | core =>
    have hbase : session.baseQueue = ⟨none, []⟩ := h.others .base (by decide)
    have hcore : session.coreQueue = ⟨some query, []⟩ := h.asking
    rw [hbase, hcore]
    rfl

/-- Whose query is in flight has got nothing yet. -/
theorem Enrolled.settledFor_of_isAsking (he : session.Enrolled)
    (h : session.IsAsking list query) : session.settledFor query.ticket = none := by
  cases hs : session.settledFor query.ticket with
  | none => rfl
  | some settled =>
    obtain ⟨front, back, hsplit, -⟩ := List.lookup_eq_some_iff.mp hs
    have hm : (query.ticket, settled) ∈ session.settled := by
      rw [hsplit]
      exact List.mem_append_right _ List.mem_cons_self
    have hapart := he.apart
    rw [h.errands, List.map_cons, List.map_map] at hapart
    refine absurd ?_ (List.nodup_cons.mp hapart).1
    exact List.mem_map.mpr ⟨_, hm, ticket_errand query.ticket settled⟩

/-- Where nobody waits any more, who asked for names has got them, or why there are none. -/
theorem Enrolled.exists_names (he : session.Enrolled) (h : session.IsIdle) {ticket : Nat}
    (hm : ⟨ticket, false⟩ ∈ session.errands) :
    ∃ result, session.settledFor ticket = some (.names result) := by
  obtain ⟨settled, hs, herrand⟩ := he.settledFor h hm
  cases settled with
  | names result => exact ⟨result, hs⟩
  | closed count => exact absurd herrand (by simp [Settled.errand])

/-- A caller who asks for names while nobody waits has them at once or has a query in
flight. -/
theorem askNames_of_idle (h : session.IsIdle) (list : NameList) :
    ((session.askNames list).1.IsIdle ∨
        ∃ waiter, (session.askNames list).1.IsAsking list ⟨session.nextTicket, waiter⟩) ∧
      (session.askNames list).1.channel = session.channel := by
  let come := { session with nextTicket := session.nextTicket + 1 }
  have hidle : come.IsIdle := h
  cases hn : session.names.get list with
  | some names =>
    rw [askNames_of_known h hn]
    exact ⟨.inl (h.settle session.nextTicket (.names (.ok names))), rfl⟩
  | none =>
    have hunknown : come.names.get list = none := hn
    have hstanding := standing_call come .root (come.settings.question list) come.inquiry
    rcases hc : come.call .root (come.settings.question list) come.inquiry with ⟨sent, reply⟩
    rw [hc] at hstanding
    have hsent : sent.IsIdle := fun other => (queueOf_congr hstanding other).trans (hidle other)
    have hchannel : sent.channel = session.channel := congrArg Standing.channel hstanding
    cases reply with
    | ok got =>
      have hserved : serve list [.names session.nextTicket] come
          = (sent, ⟨some ⟨session.nextTicket, got.2⟩, []⟩) := by
        rw [serve, hunknown, hc]
      have hasked : (session.askNames list).1
          = sent.setQueue list ⟨some ⟨session.nextTicket, got.2⟩, []⟩ :=
        resume_stand hidle hserved hsent
      rw [hasked]
      refine ⟨.inr ⟨got.2, hsent.isAsking list _⟩, ?_⟩
      cases list <;> exact hchannel
    | error error =>
      have hsettled := hsent.settle session.nextTicket (.names (.error error))
      have hserved : serve list [.names session.nextTicket] come
          = (sent.settle session.nextTicket (.names (.error error)), ⟨none, []⟩) := by
        rw [serve, hunknown, hc]
        rfl
      have hasked : (session.askNames list).1
          = sent.settle session.nextTicket (.names (.error error)) :=
        (resume_stand hidle hserved hsettled).trans
          ((congrArg _ (hsettled list).symm).trans (setQueue_self _ list))
      rw [hasked]
      exact ⟨.inl hsettled, hchannel⟩

theorem channel_told (session : Session) (list : NameList) (query : Query) :
    (session.told list query).channel = session.channel := by
  cases list <;> rfl

/-- Bytes that come in may end the query that is in flight. -/
theorem feed_of_asking (h : session.IsAsking list query) (chunk : Bytes) :
    ((session.feed chunk).1.IsIdle ∨ (session.feed chunk).1.IsAsking list query) ∧
      (session.feed chunk).1.channel = session.channel := by
  have hstanding := standing_receive session chunk
  have hreceived := h.congr hstanding
  have hchannel : (session.receive chunk).1.channel = session.channel :=
    congrArg Standing.channel hstanding
  have hfed : (session.feed chunk).1 = (session.receive chunk).1.resume := rfl
  rw [hfed, resume_of_asking hreceived]
  split
  · exact ⟨.inl (isIdle_told hreceived), (channel_told _ list query).trans hchannel⟩
  · exact ⟨.inr hreceived, hchannel⟩

/-- A chunk leaves an idle session idle and its channel as it is. -/
theorem feed_of_idle (h : session.IsIdle) (chunk : Bytes) :
    (session.feed chunk).1.IsIdle ∧ (session.feed chunk).1.channel = session.channel := by
  have hstanding := standing_receive session chunk
  have hreceived : (session.receive chunk).1.IsIdle :=
    fun other => (queueOf_congr hstanding other).trans (h other)
  have hfed : (session.feed chunk).1 = (session.receive chunk).1.resume := rfl
  rw [hfed, resume_of_idle hreceived]
  exact ⟨hreceived, congrArg Standing.channel hstanding⟩

end Names

end ReplLink.Session

namespace ReplLink.CommandLine

open ReplLink.Routing ReplLink.Text

section Definitions

/-- What goes wrong with a connection or with the files besides. -/
inductive Trouble where
  /-- Reading from the interpreter fails. -/
  | readFails (cause : String)
  /-- Writing to the interpreter fails from now on. -/
  | breakWrites
  /-- From now on, files can or cannot be written where code is spilled to. -/
  | allowSpills (canSpill : Bool)
  deriving DecidableEq, Repr

/-- What this is for the session. -/
def Trouble.move : Trouble → Session.Move
  | readFails cause => .readFails cause
  | breakWrites => .breakWrites
  | allowSpills canSpill => .allowSpills canSpill

/-- All that happens while a conversation is led. -/
inductive Occurrence where
  /-- Something reaches the conversation. -/
  | input (input : Input)
  /-- Something goes wrong. -/
  | trouble (trouble : Trouble)
  deriving DecidableEq, Repr

/-- The line that is read then. -/
def Occurrence.line? : Occurrence → Option Line
  | .input reached => reached.line?
  | .trouble _ => none

namespace Conversation

/-- The conversation goes on after an occurrence. After the end nothing happens any more. -/
def meet (conversation : Conversation) : Occurrence → Conversation
  | .input input => conversation.step input
  | .trouble trouble =>
    if conversation.exit.isSome then conversation
    else { conversation with session := conversation.session.act trouble.move }

/-- All of them happen, one after the other. -/
def meetAll (conversation : Conversation) (occurrences : List Occurrence) : Conversation :=
  occurrences.foldl meet conversation

end Conversation

/-- Of all callers only the one is left whom a conversation waits for. -/
def Suits (session : Session) : Option Waiting → Prop
  | some (.names list ticket) => ∃ waiter, session.IsAsking list ⟨ticket, waiter⟩
  | _ => session.IsIdle

/-- The caller whom a conversation waits for may be served already. -/
def MaySuit (session : Session) : Option Waiting → Prop
  | some (.names list ticket) =>
    (session.IsIdle ∧ ⟨ticket, false⟩ ∈ session.errands) ∨
      ∃ waiter, session.IsAsking list ⟨ticket, waiter⟩
  | _ => session.IsIdle

/-- A conversation goes on over a session that nobody has closed. -/
structure GoesOn (start : Session) (conversation : Conversation) : Prop where
  /-- It has not ended. -/
  going : conversation.exit = none
  /-- The session has come from the one at the start, -/
  led : start.ComesTo conversation.session
  /-- and has not been closed. -/
  isOpen : conversation.session.channel ≠ .shut
  /-- Nobody but the conversation waits for names. -/
  suits : Suits conversation.session conversation.waiting

/-- What becomes of the session when a conversation ends with a line. -/
def Line.Leaves (before after : Session) : Line → Prop
  | unreadable _ => after = before
  | _ => after.IsTornDown

/-- A conversation has ended with a line. -/
structure EndsWith (start : Session) (line : Line) (before after : Conversation) : Prop where
  /-- It went on until then, -/
  goes : GoesOn start before
  /-- and nothing was waited for. -/
  ready : before.waiting = none
  /-- It dealt with the line and left the others in the queue. -/
  took : ∃ queue, after = { before.take line with queue }
  /-- That was the end. -/
  ended : after.exit.isSome = true
  /-- The session was left so. -/
  left : line.Leaves before.session after.session

/-- A conversation goes on with lines that are read, or has ended with one of them. -/
def IsLed (start : Session) (lines : List Line) (conversation : Conversation) : Prop :=
  (GoesOn start conversation ∧ conversation.queue ⊆ lines) ∨
    ∃ line ∈ lines, ∃ before, EndsWith start line before conversation

end Definitions

section Lines

variable {start : Session} {context address spillDirectory : String} {settings : Settings}
  {frontEnd : FrontEnd} {draw : Nat → Nat} {conversation : Conversation}

/-- Looking for an answer leaves the session as it is. -/
theorem session_look (conversation : Conversation) :
    conversation.look.session = conversation.session := by
  unfold Conversation.look
  split
  · rfl
  · split <;> rfl

/-- Looking for an answer does not end the conversation. -/
theorem exit_look (conversation : Conversation) : conversation.look.exit = conversation.exit := by
  unfold Conversation.look
  split
  · rfl
  · split <;> rfl

/-- Who has been served is not waited for when the conversation has looked. -/
theorem suits_look (he : conversation.session.Enrolled)
    (h : MaySuit conversation.session conversation.waiting) :
    Suits conversation.look.session conversation.look.waiting := by
  rw [session_look]
  unfold Conversation.look
  cases hw : conversation.waiting with
  | none =>
    rw [hw] at h
    dsimp only
    rwa [hw]
  | some waiting =>
    rw [hw] at h
    dsimp only
    cases waiting with
    | reply waiter =>
      split
      · rwa [hw]
      · exact h
    | names list ticket =>
      rcases h with ⟨hidle, hm⟩ | ⟨waiter, hasking⟩
      · obtain ⟨result, hs⟩ := he.exists_names hidle hm
        have hfound : conversation.result? (.names list ticket)
            = some (Conversation.renderNames list result) := by
          rw [Conversation.result?, hs]
        rw [hfound]
        exact hidle
      · have hnone : conversation.result? (.names list ticket) = none := by
          rw [Conversation.result?, he.settledFor_of_isAsking hasking]
        rw [hnone]
        dsimp only
        rw [hw]
        exact ⟨waiter, hasking⟩

/-- A conversation that looks goes on. -/
theorem goesOn_look (hs : start = .opened context address settings frontEnd spillDirectory draw)
    (hg : conversation.exit = none) (hl : start.ComesTo conversation.session)
    (ho : conversation.session.channel ≠ .shut)
    (hm : MaySuit conversation.session conversation.waiting) : GoesOn start conversation.look where
  going := (exit_look conversation).trans hg
  led := (session_look conversation).symm ▸ hl
  isOpen := (session_look conversation).symm ▸ ho
  suits := suits_look (hl.enrolled hs) hm

/-- The conversation goes on over what it prints. -/
theorem GoesOn.print (h : GoesOn start conversation) (output : Output) :
    GoesOn start (conversation.print output) :=
  ⟨h.going, h.led, h.isOpen, h.suits⟩

/-- The conversation goes on whichever lines are to come. -/
theorem GoesOn.withQueue (h : GoesOn start conversation) (queue : List Line) :
    GoesOn start { conversation with queue } :=
  ⟨h.going, h.led, h.isOpen, h.suits⟩

/-- A conversation that waits for no answer leaves its session idle. -/
theorem GoesOn.isIdle (h : GoesOn start conversation) (hw : conversation.waiting = none) :
    conversation.session.IsIdle := by
  have hsuits := h.suits
  rwa [hw] at hsuits

/-- Code is sent, or it is not, or it finds the connection gone and the session is torn
down. -/
theorem GoesOn.evaluate (hs : start = .opened context address settings frontEnd spillDirectory draw)
    (h : GoesOn start conversation) (hw : conversation.waiting = none) (code : String) :
    GoesOn start (conversation.evaluate code) ∨
      (conversation.evaluate code).exit.isSome = true ∧
        (conversation.evaluate code).session.IsTornDown := by
  have hled : start.ComesTo (conversation.session.eval .root code).1 :=
    h.led.act (.eval .root code) trivial
  have hstanding : (conversation.session.eval .root code).1.standing
      = conversation.session.standing := Session.standing_call _ _ _ _
  have hchannel : (conversation.session.eval .root code).1.channel ≠ .shut :=
    fun hshut => h.isOpen ((congrArg Session.Standing.channel hstanding).symm.trans hshut)
  have hidle : (conversation.session.eval .root code).1.IsIdle := fun list =>
    (Session.queueOf_congr hstanding list).trans (h.isIdle hw list)
  unfold Conversation.evaluate
  split
  · next session sent waiter he =>
    rw [he] at hled hchannel hidle
    exact .inl ⟨h.going, hled, hchannel, hidle⟩
  · next session he =>
    rw [he] at hled hidle
    exact .inr ⟨rfl, hled.isTornDown_close hs hidle⟩
  · next session why _ he =>
    rw [he] at hled hchannel hidle
    refine .inl ⟨h.going, hled, hchannel, ?_⟩
    show Suits session conversation.waiting
    rwa [hw]

/-- Names are there at once, or a query for them is in flight. -/
theorem GoesOn.askNames (hs : start = .opened context address settings frontEnd spillDirectory draw)
    (h : GoesOn start conversation) (hw : conversation.waiting = none) (list : NameList) :
    GoesOn start (conversation.askNames list) := by
  obtain ⟨hasked, hchannel⟩ := Session.askNames_of_idle (h.isIdle hw) list
  have hcame : (⟨conversation.session.nextTicket, false⟩ : Errand)
      ∈ (conversation.session.askNames list).1.errands := by
    have hkeeps := Session.keeps_act conversation.session (.askNames list)
    exact hkeeps.errands.mem_iff.mpr List.mem_cons_self
  let asked : Conversation :=
    { conversation with
      session := (conversation.session.askNames list).1
      waiting := some (.names list conversation.session.nextTicket) }
  have hled : start.ComesTo asked.session := h.led.act (.askNames list) trivial
  have hmay : MaySuit asked.session asked.waiting :=
    hasked.imp_left fun hidle => ⟨hidle, hcame⟩
  have hlooked : conversation.askNames list = asked.look := rfl
  rw [hlooked]
  exact goesOn_look hs h.going hled (fun hshut => h.isOpen (hchannel.symm.trans hshut)) hmay

/-- A line is dealt with and the conversation goes on, or it was the last one. -/
theorem GoesOn.take (hs : start = .opened context address settings frontEnd spillDirectory draw)
    (h : GoesOn start conversation) (hw : conversation.waiting = none) (line : Line) :
    GoesOn start (conversation.take line) ∨
      (conversation.take line).exit.isSome = true ∧
        line.Leaves conversation.session (conversation.take line).session := by
  have hclosed := h.led.isTornDown_close hs (h.isIdle hw)
  cases line with
  | unreadable fault => exact .inr ⟨rfl, rfl⟩
  | finish => exact .inr ⟨rfl, hclosed⟩
  | text line =>
    unfold Conversation.take Line.Leaves
    dsimp only
    cases Demand.ofLine line with
    | nothing => exact .inl h
    | quit => exact .inr ⟨rfl, hclosed⟩
    | names list => exact .inl (h.askNames hs hw list)
    | unknownList word => exact .inl (h.print _)
    | unknownCommand line => exact .inl (h.print _)
    | evaluate code => exact h.evaluate hs hw code

/-- Lines are dealt with as long as nothing has to be waited for. -/
theorem GoesOn.takeAll (hs : start = .opened context address settings frontEnd spillDirectory draw)
    (h : GoesOn start conversation) {lines queue : List Line} (hq : queue ⊆ lines) :
    IsLed start lines (conversation.takeAll queue) := by
  induction queue generalizing conversation with
  | nil => exact .inl ⟨h.withQueue [], List.nil_subset lines⟩
  | cons line rest ih =>
    have hready : conversation.isReady = true ↔ conversation.waiting = none := by
      simp [Conversation.isReady, h.going]
    by_cases hw : conversation.waiting = none
    · have htake : conversation.takeAll (line :: rest) = (conversation.take line).takeAll rest := by
        rw [Conversation.takeAll, if_pos (hready.mpr hw)]
      rw [htake]
      rcases h.take hs hw line with hgoes | ⟨hended, hleft⟩
      · exact ih hgoes fun other ho => hq (List.mem_cons_of_mem _ ho)
      · have hover : (conversation.take line).isReady = false := by
          simpa [Conversation.isReady] using fun _ => hended
        rw [takeAll_of_not_ready hover]
        exact .inr ⟨line, hq List.mem_cons_self, conversation, h, hw, ⟨rest, rfl⟩, hended, hleft⟩
    · have hbusy : conversation.isReady = false := by
        rw [← Bool.not_eq_true, hready]
        exact hw
      rw [takeAll_of_not_ready hbusy]
      exact .inl ⟨h.withQueue (line :: rest), hq⟩

end Lines

section Occurrences

variable {start : Session} {context address spillDirectory : String} {settings : Settings}
  {frontEnd : FrontEnd} {draw : Nat → Nat} {conversation : Conversation} {lines : List Line}

/-- What leaves the callers where they are suits the conversation as before. -/
theorem Suits.of_queues {session after : Session} {waiting : Option Waiting}
    (h : Suits session waiting) (hq : ∀ list, after.queueOf list = session.queueOf list) :
    Suits after waiting := by
  match waiting with
  | none => exact fun list => (hq list).trans (h list)
  | some (.reply _) => exact fun list => (hq list).trans (h list)
  | some (.names list ticket) =>
    obtain ⟨waiter, hasking⟩ := h
    exact ⟨waiter, (hq list).trans hasking.asking,
      fun other ho => (hq other).trans (hasking.others other ho)⟩

/-- A move that leaves the callers where they are and does not close the session. -/
def IsAside (session : Session) (move : Session.Move) : Prop :=
  (∀ list, (session.act move).queueOf list = session.queueOf list) ∧
    ((session.act move).channel = .shut → session.channel = .shut)

/-- A hang-up leaves every line as it is and shuts nothing. -/
theorem isAside_hangUp (session : Session) : IsAside session .hangUp := by
  unfold IsAside Session.act Session.hangUp
  dsimp only
  split
  · exact ⟨fun list => by cases list <;> rfl, fun hshut => hshut⟩
  · exact ⟨fun _ => rfl, fun hshut => hshut⟩

/-- Trouble leaves every line as it is and shuts nothing. -/
theorem Trouble.isAside (session : Session) (trouble : Trouble) :
    IsAside session trouble.move := by
  unfold IsAside
  cases trouble with
  | readFails cause =>
    unfold Trouble.move Session.act Session.readFails
    dsimp only
    split
    · exact ⟨fun list => by cases list <;> rfl, fun hshut => hshut⟩
    · exact ⟨fun _ => rfl, fun hshut => hshut⟩
  | breakWrites =>
    unfold Trouble.move Session.act Session.breakWrites
    dsimp only
    split
    · exact ⟨fun list => by cases list <;> rfl, fun hshut => absurd hshut (by simp)⟩
    · exact ⟨fun _ => rfl, fun hshut => hshut⟩
  | allowSpills canSpill => exact ⟨fun list => by cases list <;> rfl, fun hshut => hshut⟩

/-- Trouble comes to a bare move. -/
theorem Trouble.isBare (trouble : Trouble) : trouble.move.IsBare := by
  cases trouble <;> trivial

/-- The conversation goes on over the session that such a move leaves. -/
theorem GoesOn.moved (h : GoesOn start conversation) (move : Session.Move) (hm : move.IsBare)
    (ha : IsAside conversation.session move) :
    GoesOn start { conversation with session := conversation.session.act move } :=
  ⟨h.going, h.led.act move hm, fun hshut => h.isOpen (ha.2 hshut), h.suits.of_queues ha.1⟩

/-- Bytes that come in may serve the caller whom the conversation waits for. -/
theorem Suits.feed {session : Session} {waiting : Option Waiting} (h : Suits session waiting)
    (chunk : Bytes) :
    MaySuit (session.feed chunk).1 waiting ∧ (session.feed chunk).1.channel = session.channel := by
  match waiting with
  | none => exact Session.feed_of_idle h chunk
  | some (.reply _) => exact Session.feed_of_idle h chunk
  | some (.names list ticket) =>
    obtain ⟨waiter, hasking⟩ := h
    obtain ⟨hfed, hchannel⟩ := Session.feed_of_asking hasking chunk
    have hthere := Session.mem_errands_run (hasking.errands ▸ List.mem_cons_self) [.feed chunk]
    exact ⟨hfed.imp (fun hidle => ⟨hidle, hthere⟩) fun hasked => ⟨waiter, hasked⟩, hchannel⟩

/-- The conversation goes on over a chunk that comes in. -/
theorem GoesOn.feed (hs : start = .opened context address settings frontEnd spillDirectory draw)
    (h : GoesOn start conversation) (chunk : Bytes) :
    GoesOn start
      (Conversation.look { conversation with session := (conversation.session.feed chunk).1 }) := by
  have hled : start.ComesTo (conversation.session.feed chunk).1 := h.led.act (.feed chunk) trivial
  obtain ⟨hmay, hchannel⟩ := h.suits.feed chunk
  exact goesOn_look hs h.going hled (fun hshut => h.isOpen (hchannel.symm.trans hshut)) hmay

/-- When the time is up, nothing is waited for any more. -/
theorem GoesOn.giveUp (hs : start = .opened context address settings frontEnd spillDirectory draw)
    (h : GoesOn start conversation) : GoesOn start conversation.giveUp := by
  have hsuits := h.suits
  unfold Conversation.giveUp
  cases hw : conversation.waiting with
  | none => exact h
  | some waiting =>
    rw [hw] at hsuits
    cases waiting with
    | reply waiter => exact ⟨h.going, h.led, h.isOpen, hsuits⟩
    | names list ticket =>
      obtain ⟨waiter, hasking⟩ := hsuits
      have hled : start.ComesTo (conversation.session.expireNames list) :=
        h.led.act (.expireNames list) trivial
      have hthere : (⟨ticket, false⟩ : Errand)
          ∈ (conversation.session.expireNames list).errands :=
        Session.mem_errands_run (hasking.errands ▸ List.mem_cons_self) [.expireNames list]
      have htold := Session.expireNames_of_asking hasking
      have hidle : (conversation.session.expireNames list).IsIdle :=
        htold ▸ Session.isIdle_told hasking
      have hchannel : (conversation.session.expireNames list).channel
          = conversation.session.channel := htold ▸ Session.channel_told _ list _
      refine goesOn_look hs h.going hled (fun hshut => h.isOpen (hchannel.symm.trans hshut)) ?_
      exact .inl ⟨hidle, hthere⟩

/-- Every occurrence leaves the conversation going on, or it was the end. -/
theorem IsLed.meet (hs : start = .opened context address settings frontEnd spillDirectory draw)
    (h : IsLed start lines conversation) {occurrence : Occurrence}
    (hr : ∀ line, occurrence.line? = some line → line ∈ lines) :
    IsLed start lines (conversation.meet occurrence) := by
  rcases h with ⟨hgoes, hqueue⟩ | ⟨line, hm, before, hends⟩
  · have hgoing : ¬ conversation.exit.isSome = true := by simp [hgoes.going]
    cases occurrence with
    | trouble trouble =>
      unfold Conversation.meet
      dsimp only
      rw [if_neg hgoing]
      exact .inl ⟨hgoes.moved trouble.move trouble.isBare (trouble.isAside _), hqueue⟩
    | input input =>
      unfold Conversation.meet Conversation.step
      dsimp only
      rw [if_neg hgoing]
      cases input with
      | read line =>
        refine (hgoes.withQueue _).takeAll hs fun other ho => ?_
        rcases List.mem_append.mp ho with ho | ho
        · exact hqueue ho
        · exact List.mem_singleton.mp ho ▸ hr line rfl
      | arrived chunk =>
        dsimp only
        split
        · refine (hgoes.feed hs chunk).takeAll hs ?_
          rw [queue_look]
          exact hqueue
        · exact .inl ⟨hgoes, hqueue⟩
      | hungUp => exact .inl ⟨hgoes.moved .hangUp trivial (isAside_hangUp _), hqueue⟩
      | timeUp => exact (hgoes.giveUp hs).takeAll hs (queue_giveUp conversation ▸ hqueue)
  · have hover : conversation.meet occurrence = conversation := by
      cases occurrence with
      | trouble trouble => exact if_pos hends.ended
      | input input => exact if_pos hends.ended
    rw [hover]
    exact .inr ⟨line, hm, before, hends⟩

/-- Any occurrences leave the conversation going on, or it has ended with one of the lines. -/
theorem IsLed.meetAll (hs : start = .opened context address settings frontEnd spillDirectory draw)
    (h : IsLed start lines conversation) {occurrences : List Occurrence}
    (hr : occurrences.filterMap Occurrence.line? ⊆ lines) :
    IsLed start lines (conversation.meetAll occurrences) := by
  induction occurrences generalizing conversation with
  | nil => exact h
  | cons occurrence rest ih =>
    rw [Session.filterMap_cons_toList] at hr
    obtain ⟨hfirst, hrest⟩ := List.append_subset.mp hr
    exact ih (h.meet hs fun line hl => hfirst (by simp [hl])) hrest

end Occurrences

section Runs

/-- At its start a conversation goes on. -/
theorem goesOn_opened {start : Session} {context address spillDirectory : String}
    {settings : Settings} {frontEnd : FrontEnd} {draw : Nat → Nat}
    (hs : start = .opened context address settings frontEnd spillDirectory draw) (json : Bool) :
    GoesOn start (.opened json start) where
  going := rfl
  led := .refl start
  isOpen := by
    rw [hs]
    exact fun hshut => absurd hshut (by simp [Conversation.opened, Session.opened])
  suits := by
    rw [hs]
    intro list
    cases list <;> rfl

/-- The session is torn down with the end of the conversation, unless the last line is no
text. -/
theorem EndsWith.isTornDown_iff {start : Session} {line : Line} {before after : Conversation}
    (h : EndsWith start line before after) :
    after.session.IsTornDown ↔ ∀ fault, line ≠ .unreadable fault := by
  have hleft := h.left
  cases line with
  | text line => exact iff_of_true hleft fun _ => by simp
  | finish => exact iff_of_true hleft fun _ => by simp
  | unreadable fault =>
    have hsame : after.session = before.session := hleft
    refine iff_of_false (fun htorn => ?_) fun hread => hread fault rfl
    exact h.goes.isOpen (hsame ▸ htorn.stopped.closed.shut.shut)

/-- Whatever stands in the input, whatever the interpreter does and whatever goes wrong, when
a conversation ends it has dealt with a last line, and nothing is left of its requests unless
this line is no text. If it is no text, the session stays as it was: its outstanding requests
are still registered, and the code that was spilled for them is on disk. -/
theorem isTornDown_iff_readable {plan : Plan} {listens : String → Bool} {spillDirectory : String}
    {draw : Nat → Nat} {start : Conversation}
    (hl : plan.launch listens spillDirectory draw = .ok start) {stdin : Bytes}
    {occurrences : List Occurrence}
    (hr : occurrences.filterMap Occurrence.line? <+: Line.split stdin) {code : Nat}
    (he : (start.meetAll occurrences).exit = some code) :
    let after := start.meetAll occurrences
    ∃ line ∈ Line.split stdin, ∃ (before : Conversation) (queue : List Line),
      before.exit = none ∧ before.waiting = none ∧ after = { before.take line with queue } ∧
      (after.session.IsTornDown ↔ ∀ fault, line ≠ .unreadable fault) ∧
      ∀ fault, line = .unreadable fault →
        code = 1 ∧ after.session = before.session ∧
          ∃ requests, start.session.Evolves after.session requests ∧
            after.session.Balanced .log requests := by
  obtain ⟨session, hs, rfl⟩ : ∃ session : Session,
      session = .opened context plan.settings.address plan.settings .log spillDirectory draw ∧
      start = .opened plan.json session := ⟨_, rfl, eq_opened_of_launch hl⟩
  intro after
  have hfirst : IsLed session (Line.split stdin) (.opened plan.json session) :=
    .inl ⟨goesOn_opened hs plan.json, List.nil_subset _⟩
  have hled := hfirst.meetAll hs hr.subset
  rcases hled with ⟨hgoes, -⟩ | ⟨line, hm, before, hends⟩
  · exact absurd he (by simp [hgoes.going])
  · obtain ⟨queue, htook⟩ := hends.took
    refine ⟨line, hm, before, queue, hends.goes.going, hends.ready, htook, hends.isTornDown_iff,
      ?_⟩
    rintro fault rfl
    have hsame : after.session = before.session := hends.left
    refine ⟨?_, hsame, ?_⟩
    · rw [htook] at he
      exact (Option.some.inj he).symm
    · rw [hsame]
      exact hends.goes.led.balanced hs

/-- Code of more than two bytes travels in a file. -/
def frugalPlan : Plan := ⟨{ longestInline := 2 }, false⟩

/-- A conversation at its start. -/
def frugalStart : Conversation :=
  .opened false (.opened context frugalPlan.settings.address frugalPlan.settings .log "/tmp"
    fun drawn => 0xA0 + drawn)

/-- Two lines of code with a command between them. -/
def plainStdin : Bytes := Utf8.encode "abc\n:names core\nf(x)\n".toList

/-- No answer to the first line comes in time. Writing fails then, so there are no names, and
before the second line of code is read the interpreter has hung up. -/
def lostOccurrences : List Occurrence :=
  [.input (.read (.text "abc")), .input .timeUp, .trouble .breakWrites,
    .input (.read (.text ":names core")), .input .hungUp, .input (.read (.text "f(x)"))]

/-- The file of the first line was on disk, and it is gone in the end. -/
theorem isTornDown_lostOccurrences :
    frugalPlan.launch (fun _ => true) "/tmp" (fun drawn => 0xA0 + drawn) = .ok frugalStart ∧
      (frugalStart.meetAll (lostOccurrences.take 5)).session.router.files.get?
        "/tmp/snippet-000000a0" = some (.spilled "abc") ∧
      (frugalStart.meetAll lostOccurrences).exit = some 1 ∧
      (frugalStart.meetAll lostOccurrences).session.IsTornDown := by
  have hl : frugalPlan.launch (fun _ => true) "/tmp" (fun drawn => 0xA0 + drawn)
      = .ok frugalStart := rfl
  have hsplit : Line.split plainStdin
      = lostOccurrences.filterMap Occurrence.line? ++ [.finish] := by decide +kernel
  have hspilled : (frugalStart.meetAll (lostOccurrences.take 5)).session.router.files.get?
      "/tmp/snippet-000000a0" = some (.spilled "abc") := by decide +kernel
  have hexit : (frugalStart.meetAll lostOccurrences).exit = some 1 := by decide +kernel
  obtain ⟨line, hm, before, queue, -, -, -, htorn, -⟩ :=
    isTornDown_iff_readable hl ⟨_, hsplit.symm⟩ hexit
  refine ⟨hl, hspilled, hexit, htorn.mpr ?_⟩
  rintro fault rfl
  rw [hsplit] at hm
  simp [lostOccurrences, Occurrence.line?, Input.line?] at hm

/-- A line of code and a line that is no text. -/
def strayStdin : Bytes := Utf8.encode "abc\n".toList ++ [0xFF, 0x0A]

/-- No answer to the code comes in time. -/
def strayOccurrences : List Occurrence :=
  [.input (.read (.text "abc")), .input .timeUp, .input (.read (.ofBytes [0xFF]))]

/-- The request is still outstanding in the end, and its file is still on disk. -/
theorem not_isTornDown_strayOccurrences :
    frugalPlan.launch (fun _ => true) "/tmp" (fun drawn => 0xA0 + drawn) = .ok frugalStart ∧
      strayOccurrences.filterMap Occurrence.line? <+: Line.split strayStdin ∧
      (frugalStart.meetAll strayOccurrences).exit = some 1 ∧
      (frugalStart.meetAll strayOccurrences).printed
        = [.line "(no value yet)",
          .note "Error: invalid utf-8 sequence of 1 bytes from index 0"] ∧
      (frugalStart.meetAll strayOccurrences).session.inFlight = 1 ∧
      (frugalStart.meetAll strayOccurrences).session.router.files.get? "/tmp/snippet-000000a0"
        = some (.spilled "abc") ∧
      ¬ (frugalStart.meetAll strayOccurrences).session.IsTornDown := by
  have hsplit : Line.split strayStdin
      = strayOccurrences.filterMap Occurrence.line? ++ [.finish] := by decide +kernel
  have hoccupied : (frugalStart.meetAll strayOccurrences).session.inFlight = 1 := by
    decide +kernel
  refine ⟨rfl, ⟨_, hsplit.symm⟩, by decide +kernel, by decide +kernel, hoccupied,
    by decide +kernel, fun htorn => ?_⟩
  rw [htorn.vacant] at hoccupied
  exact absurd hoccupied (by simp)

end Runs

end ReplLink.CommandLine
