import ReplLink.Proofs.Request.Lines
import ReplLink.Proofs.Session.Recorded
import ReplLink.Proofs.Session.Sending

/-!
# The history of a session

A session remembers the last lines that it has written, as many as its settings say. `latest`
says which these are, from all the lines that were written. Each operation writes some lines and
remembers them one after the other: `Transcribes` names the lines, and remembering a line turns
the latest ones into the latest ones.

Only sending writes. The operations that go on with a list of names may send one query for each
caller who stands in a line, and none without a connection: `Asks` counts them. So a response, the
end of the time for a query, a hang-up or the end of the session remembers nothing by itself.
-/

namespace ReplLink

open ReplLink.Text ReplLink.Routing

section Lines

/-- A sent line without its last character. -/
def Sent.unbroken (sent : Sent) : Sent :=
  { sent with line := String.ofList sent.line.toList.dropLast }

/-- The line is that of a request in a valid namespace, under the id that it was sent with. -/
def Sent.IsRequest (sent : Sent) : Prop :=
  ∃ (request : Request) (path : Namespace), path.tokens = .ok request.namespaceTokens ∧
    request.id = sent.id ∧ sent.line = request.encode

/-- A line that can be told from the next one and names the id that it was sent with. -/
structure Sent.IsLegible (sent : Sent) : Prop where
  /-- Its last character is a line break, -/
  broken : sent.line = sent.unbroken.line ++ "\n"
  /-- which is the only one. -/
  unbroken : '\n' ∉ sent.unbroken.line.toList
  /-- It is read as a request under its id, with the line break or without. -/
  read : ∃ request, Request.decode sent.line = .ok request ∧
    Request.decode sent.unbroken.line = .ok request ∧ request.id = sent.id

/-- Nothing but the line break is trimmed off a request line. -/
theorem Request.trimEnd_encode (request : Request) :
    trimEnd request.encode.toList = request.record := by
  have hlast : request.record.getLast? = some ')' := List.getLast?_concat
  rw [toList_encode, trimEnd_append_blank _ (by decide)]
  refine trimEnd_eq_self fun c hc => ?_
  rw [hlast] at hc
  exact Option.some.inj hc ▸ rfl

namespace Sent.IsRequest

variable {sent : Sent}

/-- What is remembered of a line is all of it but its line break. -/
theorem trimEnd_line (h : sent.IsRequest) :
    { sent with line := String.ofList (trimEnd sent.line.toList) } = sent.unbroken := by
  obtain ⟨request, -, -, -, hline⟩ := h
  rw [unbroken, hline, Request.trimEnd_encode, Request.toList_encode, List.dropLast_concat]

/-- A request that is written reads back from its line, with its line break and without. -/
theorem isLegible (h : sent.IsRequest) : sent.IsLegible := by
  obtain ⟨request, path, hpath, hid, hline⟩ := h
  obtain ⟨hne, htokens⟩ := Namespace.isToken_of_tokens hpath
  have hlist : sent.line.toList = request.record ++ ['\n'] := hline ▸ request.toList_encode
  have hrecord : sent.unbroken.line.toList = request.record := by
    rw [unbroken, String.toList_ofList, hlist, List.dropLast_concat]
  refine ⟨?_, ?_, request, ?_, ?_, hid⟩
  · refine String.toList_inj.mp ?_
    rw [String.toList_append, hrecord, hlist]
    rfl
  · intro hbreak
    rw [hrecord] at hbreak
    exact absurd (Request.isAsciiControl_record htokens hbreak) (by decide)
  · exact Request.decode_of_record hne htokens (.inr hlist)
  · exact Request.decode_of_record hne htokens (.inl hrecord)

end Sent.IsRequest

end Lines

namespace Session

section Remembering

/-- The last lines, as many as are remembered, without their line breaks. -/
def latest (limit : Nat) (lines : List Sent) : List Sent :=
  (lines.drop (lines.length - limit)).map Sent.unbroken

variable {limit : Nat} {written lines : List Sent}

/-- The latest lines are as many as the limit allows. -/
theorem length_latest (limit : Nat) (lines : List Sent) :
    (latest limit lines).length = min limit lines.length := by
  rw [latest, List.length_map, List.length_drop]
  omega

/-- A line that is remembered makes the latest lines the latest lines. -/
theorem remember_latest (written : List Sent) {sent : Sent} (h : sent.IsRequest) :
    remember limit (latest limit written) sent = latest limit (written ++ [sent]) := by
  unfold remember
  split
  · next hzero =>
    have hempty (lines : List Sent) : latest limit lines = [] :=
      List.length_eq_zero_iff.mp (by rw [length_latest, hzero, Nat.zero_min])
    rw [hempty, hempty]
  · -- The oldest line goes once there are as many as the limit.
    have hroom : written.length - limit + (min limit written.length + 1 - limit)
        = written.length + 1 - limit := by omega
    have hkept : (latest limit written).drop ((latest limit written).length + 1 - limit)
        = (written.drop (written.length + 1 - limit)).map Sent.unbroken := by
      rw [length_latest, latest, ← List.map_drop, List.drop_drop, hroom]
    have hlast : latest limit (written ++ [sent])
        = (written.drop (written.length + 1 - limit)).map Sent.unbroken ++ [sent.unbroken] := by
      rw [latest, List.length_append, List.length_singleton,
        List.drop_append_of_le_length (by omega), List.map_append, List.map_singleton]
    rw [h.trimEnd_line, hkept, hlast]

/-- So do any number of lines, one after the other. -/
theorem foldl_remember_latest (h : ∀ sent ∈ lines, sent.IsRequest) :
    lines.foldl (remember limit) (latest limit written) = latest limit (written ++ lines) := by
  induction lines generalizing written with
  | nil => rw [List.foldl_nil, List.append_nil]
  | cons sent rest ih =>
    rw [List.foldl_cons, remember_latest written (h sent List.mem_cons_self),
      ih fun other ho => h other (List.mem_cons_of_mem _ ho), List.append_assoc,
      List.singleton_append]

end Remembering

section Transcribing

/-- These lines are written, and remembered in this order. -/
structure Transcribes (before : Session) (lines : List Sent) (after : Session) : Prop where
  /-- As many lines are remembered as before. -/
  settings : after.settings = before.settings
  /-- The lines are behind those that were written before. -/
  written : after.written = before.written ++ lines
  /-- Each of them is remembered. -/
  history : after.history = lines.foldl (remember before.settings.historyLimit) before.history
  /-- They are requests. -/
  requests : ∀ sent ∈ lines, sent.IsRequest

variable {before now after : Session} {lines more : List Sent}

/-- What leaves the written and the remembered lines alone. -/
theorem Transcribes.of_kept (hs : after.settings = before.settings)
    (hw : after.written = before.written) (hh : after.history = before.history) :
    Transcribes before [] after where
  settings := hs
  written := hw.trans (List.append_nil _).symm
  history := hh
  requests := fun _ hm => absurd hm List.not_mem_nil

/-- Lines written one after the other are remembered one after the other. -/
theorem Transcribes.trans (h : Transcribes before lines now) (hm : Transcribes now more after) :
    Transcribes before (lines ++ more) after where
  settings := hm.settings.trans h.settings
  written := by rw [hm.written, h.written, List.append_assoc]
  history := by rw [hm.history, h.history, h.settings, List.foldl_append]
  requests := fun sent hs => (List.mem_append.mp hs).elim (h.requests sent) (hm.requests sent)

/-- Sending is refused and leaves everything as it is, or writes a request of the namespace. -/
theorem send_eq_write (session : Session) (path : Namespace) (code : String) (job : Job) :
    (∃ error, session.send path code job = (session, .error error)) ∨
      ∃ tokens, path.tokens = .ok tokens ∧ session.send path code job
        = (session.entered (session.chargeFor code job)).write session.nextId
            (Request.encode ⟨tokens, session.nextId,
              session.wireCode (session.chargeFor code job)⟩) := by
  cases hc : session.connected with
  | false => exact .inl ⟨.closed, by rw [send, if_pos (by simp [hc])]⟩
  | true =>
    cases ht : path.tokens with
    | error refusal =>
      exact .inl ⟨.badToken refusal, by rw [send, if_neg (by simp [hc]), ht]⟩
    | ok tokens =>
      by_cases hs : session.mustSpill code job = true → session.canSpill = true
      · exact .inr ⟨tokens, rfl, send_of_valid hc ht hs⟩
      · obtain ⟨hm, hd⟩ := Classical.not_imp.mp hs
        exact .inl ⟨_, send_of_unspilled hc ht hm (Bool.eq_false_iff.mpr hd)⟩

/-- Taking a request back writes nothing. -/
theorem transcribes_takeBack (session : Session) (id : String) (error : SessionError) :
    Transcribes session [] (session.takeBack id error) := by
  unfold takeBack
  dsimp only
  split <;> exact .of_kept rfl rfl rfl

/-- Sending writes the line that it gives, if it gives one. -/
theorem transcribes_send (session : Session) (path : Namespace) (code : String) (job : Job) :
    Transcribes session (session.send path code job).2.toOption.toList
      (session.send path code job).1 := by
  rcases send_eq_write session path code job with ⟨error, hs⟩ | ⟨tokens, ht, hs⟩
  · rw [hs]
    exact .of_kept rfl rfl rfl
  · have hentered : Transcribes session [] (session.entered (session.chargeFor code job)) :=
      .of_kept rfl rfl rfl
    rw [hs, write]
    split
    · refine ⟨rfl, rfl, rfl, fun sent hm => ?_⟩
      rw [List.mem_singleton.mp hm]
      exact ⟨_, path, ht, rfl, rfl⟩
    · exact hentered.trans (transcribes_takeBack _ _ _)
    · exact hentered.trans (transcribes_takeBack _ _ _)

/-- So does a call. -/
theorem transcribes_call (session : Session) (path : Namespace) (code : String) (job : Job) :
    Transcribes session ((session.call path code job).2.map Prod.fst).toOption.toList
      (session.call path code job).1 := by
  have hsend := transcribes_send session path code { job with waiter := some session.nextTicket }
  unfold call
  dsimp only
  split
  · next after sent hs =>
    rw [hs] at hsend
    exact ⟨hsend.settings, hsend.written, hsend.history, hsend.requests⟩
  · next after error hs =>
    rw [hs] at hsend
    exact hsend

end Transcribing

section Asking

/-- How many callers make these claims. -/
def callersOf (claims : List Claim) : Nat := (claims.filterMap Claim.caller?).length

/-- How many callers stand in the lines. -/
def inLine (session : Session) : Nat :=
  callersOf session.baseQueue.line + callersOf session.coreQueue.line

/-- Some lines are written, at most one for each caller who has been served: at first so many
callers come besides those who stand in line, and in the end so many of them are left. -/
structure Asks (before : Session) (coming : Nat) (lines : List Sent) (after : Session)
    (left : Nat) : Prop extends Transcribes before lines after where
  /-- The connection is as it was. -/
  connected : after.connected = before.connected
  /-- Nothing is written without a connection. -/
  silent : before.connected = false → lines = []
  /-- A caller for whom a query is sent has left the line. -/
  callers : left + after.inLine + lines.length ≤ coming + before.inLine

variable {before now after session : Session} {lines more : List Sent} {coming left last : Nat}

/-- What leaves the lines and the connection alone writes for nobody. -/
theorem Asks.of_kept (hs : after.settings = before.settings)
    (hw : after.written = before.written) (hh : after.history = before.history)
    (hc : after.connected = before.connected)
    (hl : left + after.inLine ≤ coming + before.inLine) : Asks before coming [] after left where
  toTranscribes := .of_kept hs hw hh
  connected := hc
  silent := fun _ => rfl
  callers := hl

/-- What is written for callers adds up, and so do those who have left the line. -/
theorem Asks.trans (h : Asks before coming lines now left) (hm : Asks now left more after last) :
    Asks before coming (lines ++ more) after last where
  toTranscribes := h.toTranscribes.trans hm.toTranscribes
  connected := hm.connected.trans h.connected
  silent := fun hc => by rw [h.silent hc, hm.silent (h.connected.trans hc), List.append_nil]
  callers := by
    have hfirst := h.callers
    have hsecond := hm.callers
    rw [List.length_append]
    omega

theorem callersOf_append (claims others : List Claim) :
    callersOf (claims ++ others) = callersOf claims + callersOf others := by
  rw [callersOf, List.filterMap_append, List.length_append, callersOf, callersOf]

/-- The callers of a new line stand in the place of those of the old one. -/
theorem inLine_setQueue (session : Session) (list : NameList) (queue : Queue) :
    (session.setQueue list queue).inLine + callersOf (session.queueOf list).line
      = session.inLine + callersOf queue.line := by
  cases list <;> simp only [inLine, setQueue, queueOf] <;> omega

/-- A new line writes nothing and has at most those in it who come. -/
theorem asks_setQueue (session : Session) (list : NameList) (queue : Queue)
    (hl : left + callersOf queue.line ≤ coming + callersOf (session.queueOf list).line) :
    Asks session coming [] (session.setQueue list queue) left := by
  have hlines := inLine_setQueue session list queue
  refine .of_kept (settings_setQueue session list queue) (written_setQueue session list queue) ?_
    (connected_setQueue session list queue) (by omega)
  cases list <;> rfl

/-- A caller who is told writes nothing. -/
theorem asks_settle (session : Session) (ticket : Nat) (settled : Settled) (hl : left ≤ coming) :
    Asks session coming [] (session.settle ticket settled) left :=
  .of_kept rfl rfl rfl rfl (Nat.add_le_add_right hl _)

/-- Who stands in a line has come before. -/
theorem asks_stand (session : Session) (list : NameList) (claim : Claim) :
    Asks session (callersOf [claim]) [] (session.stand list claim) 0 := by
  refine asks_setQueue session list _ ?_
  rw [callersOf_append]
  omega

/-- Who closes the session is no caller. -/
theorem asks_vacate (session : Session) (list : NameList) (ticket : Nat) (wasOpen : Bool)
    (coming : Nat) : Asks session coming [] (session.vacate list ticket wasOpen) coming := by
  cases list with
  | base =>
    refine .of_kept rfl rfl rfl rfl (Nat.le_of_eq (congrArg (coming + ·) ?_))
    exact congrArg (callersOf session.baseQueue.line + ·)
      ((callersOf_append session.coreQueue.line [.close ticket wasOpen]).trans (Nat.add_zero _))
  | core => exact .of_kept rfl rfl rfl rfl (Nat.le_refl _)

/-- A call for a caller writes one line at most, and none without a connection. -/
theorem asks_call (session : Session) (path : Namespace) (code : String) (job : Job)
    (coming : Nat) :
    Asks session (coming + 1) ((session.call path code job).2.map Prod.fst).toOption.toList
      (session.call path code job).1 coming := by
  have hstanding := standing_call session path code job
  have hbase : (session.call path code job).1.baseQueue = session.baseQueue :=
    congrArg Standing.baseQueue hstanding
  have hcore : (session.call path code job).1.coreQueue = session.coreQueue :=
    congrArg Standing.coreQueue hstanding
  refine ⟨transcribes_call session path code job, congrArg Standing.connected hstanding, ?_, ?_⟩
  · intro hc
    cases hcall : session.call path code job with
    | mk after result =>
      cases result with
      | ok answer => exact absurd (connected_of_call hcall) (by simp [hc])
      | error error => rfl
  · have hone := Option.length_toList_le
      (o := ((session.call path code job).2.map Prod.fst).toOption)
    rw [inLine, hbase, hcore, ← inLine]
    omega

/-- Serving a line sends one query at most for each caller whom it serves. -/
theorem asks_serve (list : NameList) (claims : List Claim) (session : Session) :
    ∃ lines, Asks session (callersOf claims) lines (serve list claims session).1
      (callersOf (serve list claims session).2.line) := by
  induction claims generalizing session with
  | nil => exact ⟨[], .of_kept rfl rfl rfl rfl (Nat.le_refl _)⟩
  | cons claim rest ih =>
    cases claim with
    | close ticket wasOpen =>
      obtain ⟨lines, hrest⟩ := ih (session.vacate list ticket wasOpen)
      rw [serve]
      exact ⟨_, (asks_vacate session list ticket wasOpen _).trans hrest⟩
    | names ticket =>
      have hcount : callersOf (.names ticket :: rest) = callersOf rest + 1 := rfl
      have hcall := asks_call session .root (session.settings.question list) session.inquiry
        (callersOf rest)
      rw [hcount, serve]
      split
      · next names _ =>
        obtain ⟨lines, hrest⟩ := ih (session.settle ticket (.names (.ok names)))
        exact ⟨_, (asks_settle session ticket _ (Nat.le_add_right _ 1)).trans hrest⟩
      · split
        · next after sent waiter hs =>
          rw [hs] at hcall
          exact ⟨_, hcall⟩
        · next after error hs =>
          rw [hs] at hcall
          obtain ⟨lines, hrest⟩ := ih (after.settle ticket (.names (.error error)))
          exact ⟨_, hcall.trans ((asks_settle after ticket _ (Nat.le_refl _)).trans hrest)⟩

/-- Serving a list writes a line at most for callers who stood in line. -/
theorem asks_serveList (list : NameList) (session : Session) :
    ∃ lines, Asks session 0 lines (serveList list session) 0 := by
  have htaken : Asks session 0 [] (session.setQueue list ⟨none, []⟩)
      (callersOf (session.queueOf list).line) :=
    asks_setQueue session list _ (Nat.le_of_eq (Nat.add_comm _ _))
  obtain ⟨lines, hserved⟩ :=
    asks_serve list (session.queueOf list).line (session.setQueue list ⟨none, []⟩)
  rw [serveList_eq]
  exact ⟨_, (htaken.trans hserved).trans (asks_setQueue _ list _ (by omega))⟩

/-- Ending a query writes at most for callers who stood in line. -/
theorem asks_endQuery (session : Session) (list : NameList) (query : Query) :
    ∃ lines, Asks session 0 lines (session.endQuery list query) 0 := by
  have hlearnt (names : KnownNames) : Asks session 0 [] { session with names } 0 :=
    .of_kept rfl rfl rfl rfl (Nat.le_refl _)
  unfold endQuery
  obtain ⟨lines, hserved⟩ := asks_serveList list _
  exact ⟨_, (hlearnt _).trans ((asks_settle _ query.ticket _ (Nat.le_refl 0)).trans hserved)⟩

/-- Going on with a list writes at most for callers who stood in line. -/
theorem asks_resumeList (list : NameList) (session : Session) :
    ∃ lines, Asks session 0 lines (resumeList list session) 0 := by
  unfold resumeList
  split
  · exact asks_serveList list session
  · split
    · exact asks_endQuery session list _
    · exact ⟨[], .of_kept rfl rfl rfl rfl (Nat.le_refl _)⟩

/-- Going on with both lists writes at most for callers who stood in line. -/
theorem asks_resume (session : Session) : ∃ lines, Asks session 0 lines session.resume 0 := by
  obtain ⟨_, hbase⟩ := asks_resumeList .base session
  obtain ⟨_, hcore⟩ := asks_resumeList .core (resumeList .base session)
  exact ⟨_, hbase.trans hcore⟩

/-- A chunk that comes in writes nothing. -/
theorem asks_receive (session : Session) (chunk : Bytes) :
    Asks session 0 [] (session.receive chunk).1 0 := by
  rw [receive_eq]
  exact .of_kept rfl rfl rfl rfl (Nat.le_refl _)

/-- What is written after a chunk is for callers who stood in line. -/
theorem asks_feed (session : Session) (chunk : Bytes) :
    ∃ lines, Asks session 0 lines (session.feed chunk).1 0 := by
  obtain ⟨_, hresumed⟩ := asks_resume (session.receive chunk).1
  exact ⟨_, (asks_receive session chunk).trans hresumed⟩

/-- Whoever asks for names comes besides those who stand in line. -/
theorem asks_askNames (session : Session) (list : NameList) :
    ∃ lines, Asks session 1 lines (session.askNames list).1 0 := by
  have hnumbered : Asks session 1 [] { session with nextTicket := session.nextTicket + 1 } 1 :=
    .of_kept rfl rfl rfl rfl (Nat.le_refl _)
  have hstood := hnumbered.trans (asks_stand _ list (.names session.nextTicket))
  obtain ⟨_, hresumed⟩ := asks_resume _
  exact ⟨_, hstood.trans hresumed⟩

/-- What is written after a query is given up is for callers who stood in line. -/
theorem asks_expireNames (session : Session) (list : NameList) :
    ∃ lines, Asks session 0 lines (session.expireNames list) 0 := by
  unfold expireNames
  split
  · next query _ =>
    obtain ⟨_, hended⟩ := asks_endQuery session list query
    obtain ⟨_, hresumed⟩ := asks_resume (session.endQuery list query)
    exact ⟨_, hended.trans hresumed⟩
  · exact ⟨[], .of_kept rfl rfl rfl rfl (Nat.le_refl _)⟩

/-- Closing writes nothing: the connection is gone before the lists are served. -/
theorem transcribes_close (session : Session) : Transcribes session [] session.close.1 := by
  have hshut : Transcribes session []
      (shut { session with nextTicket := session.nextTicket + 1 }).1 := .of_kept rfl rfl rfl
  have hstood := asks_stand (shut { session with nextTicket := session.nextTicket + 1 }).1 .base
    (.close session.nextTicket (decide (session.channel ≠ .shut)))
  obtain ⟨lines, hresumed⟩ := asks_resume _
  have hasks := hstood.trans hresumed
  have hnone : lines = [] := hasks.silent rfl
  subst hnone
  exact hshut.trans hasks.toTranscribes

end Asking

/-- The lines that a move may write. Sending and calling write the line that they give, if they
give one. What goes on with a list of names may write one query for each caller in line, and none
without a connection. Nothing else writes. -/
def Move.Writes (session : Session) (lines : List Sent) : Move → Prop
  | .send path code job => lines = (session.send path code job).2.toOption.toList
  | .call path code job => lines = ((session.call path code job).2.map Prod.fst).toOption.toList
  | .eval path code => lines = ((session.eval path code).2.map Prod.fst).toOption.toList
  | .askNames _ => lines.length ≤ session.inLine + 1 ∧ (session.connected = false → lines = [])
  | .expireNames _ | .resume | .feed _ =>
    lines.length ≤ session.inLine ∧ (session.connected = false → lines = [])
  | _ => lines = []

section Moves

/-- A move writes what it may, and remembers it. -/
theorem transcribes_act (session : Session) (move : Move) :
    ∃ lines, Transcribes session lines (session.act move) ∧ move.Writes session lines := by
  -- What going on with the lists comes to, so many callers having come.
  have hasked {coming : Nat} {after : Session}
      (h : ∃ lines, Asks session coming lines after 0) : ∃ lines, Transcribes session lines after ∧
        lines.length ≤ session.inLine + coming ∧ (session.connected = false → lines = []) := by
    obtain ⟨lines, h⟩ := h
    have hcallers := h.callers
    exact ⟨lines, h.toTranscribes, by omega, h.silent⟩
  have hkept {after : Session} (hs : after.settings = session.settings)
      (hw : after.written = session.written) (hh : after.history = session.history) :
      ∃ lines, Transcribes session lines after ∧ lines = [] := ⟨[], .of_kept hs hw hh, rfl⟩
  cases move with
  | send path code job => exact ⟨_, transcribes_send session path code job, rfl⟩
  | call path code job => exact ⟨_, transcribes_call session path code job, rfl⟩
  | eval path code => exact ⟨_, transcribes_call session path code session.evaluation, rfl⟩
  | askNames list => exact hasked (asks_askNames session list)
  | expireNames list => exact hasked (asks_expireNames session list)
  | receive chunk => exact ⟨[], (asks_receive session chunk).toTranscribes, rfl⟩
  | resume => exact hasked (asks_resume session)
  | feed chunk => exact hasked (asks_feed session chunk)
  | hangUp =>
    unfold act hangUp
    dsimp only
    split <;> exact hkept rfl rfl rfl
  | readFails cause =>
    unfold act readFails
    dsimp only
    split <;> exact hkept rfl rfl rfl
  | breakWrites =>
    unfold act breakWrites
    dsimp only
    split <;> exact hkept rfl rfl rfl
  | close => exact ⟨[], transcribes_close session, rfl⟩
  | allowSpills canSpill => exact hkept rfl rfl rfl
  | place attachment => exact hkept rfl rfl rfl
  | deleteFile path => exact hkept rfl rfl rfl

variable {session after : Session} {lines : List Sent}

/-- What has been written is requests, and the latest lines are remembered. -/
structure IsTracked (session : Session) : Prop where
  /-- The latest lines are remembered. -/
  history : session.history = latest session.settings.historyLimit session.written
  /-- All lines are requests. -/
  requests : ∀ sent ∈ session.written, sent.IsRequest

/-- Lines that are written and remembered leave the latest ones remembered. -/
theorem IsTracked.step (h : session.IsTracked) (hs : Transcribes session lines after) :
    after.IsTracked where
  history := by
    rw [hs.history, h.history, foldl_remember_latest hs.requests, hs.settings, hs.written]
  requests := fun sent hm => by
    rw [hs.written] at hm
    exact (List.mem_append.mp hm).elim (h.requests sent) (hs.requests sent)

/-- The settings stay and what is remembered are the latest lines, whatever moves are made. -/
theorem IsTracked.run (h : session.IsTracked) (moves : List Move) :
    (session.run moves).IsTracked ∧ (session.run moves).settings = session.settings := by
  induction moves generalizing session with
  | nil => exact ⟨h, rfl⟩
  | cons move rest ih =>
    obtain ⟨lines, hs, -⟩ := transcribes_act session move
    obtain ⟨htracked, hsettings⟩ := ih (h.step hs)
    exact ⟨htracked, hsettings.trans hs.settings⟩

end Moves

/-- The history is the end of what was written. -/
structure IsTranscribed (limit : Nat) (session : Session) : Prop where
  /-- The last lines are remembered, in the order in which they were written and without their
  line breaks. -/
  latest : session.history = latest limit session.written
  /-- There are as many as the limit, or all that were written. -/
  many : session.history.length = min limit session.written.length
  /-- Each line that was written is one line, and is read as a request under the id that it is
  remembered with. -/
  legible : ∀ sent ∈ session.written, sent.IsLegible

/-- Whatever moves are made, and whichever of the lines can be written, what a session remembers
is the end of what was written. A further move writes what it may, which is nothing for those that
take responses or end the connection, and a move that writes nothing leaves the history as it
is. -/
theorem history_run {context address : String} {settings : Settings} {frontEnd : FrontEnd}
    {spillDirectory : String} {draw : Nat → Nat} {start : Session}
    (hs : start = opened context address settings frontEnd spillDirectory draw)
    (moves : List Move) :
    (start.run moves).IsTranscribed settings.historyLimit ∧
      ∀ move, ∃ lines,
        (start.run (moves ++ [move])).written = (start.run moves).written ++ lines ∧
        move.Writes (start.run moves) lines ∧
        (lines = [] → (start.run (moves ++ [move])).history = (start.run moves).history) := by
  have hopened : start.IsTracked := by
    have hnone : latest settings.historyLimit [] = [] := by
      rw [latest, List.drop_nil, List.map_nil]
    rw [hs]
    exact ⟨hnone.symm, fun _ hm => absurd hm List.not_mem_nil⟩
  obtain ⟨htracked, hsettings⟩ := hopened.run moves
  have hlimit : (start.run moves).settings = settings := by rw [hsettings, hs]; rfl
  have hlatest : (start.run moves).history
      = latest settings.historyLimit (start.run moves).written := by
    rw [htracked.history, hlimit]
  refine ⟨⟨hlatest, ?_, fun sent hm => (htracked.requests sent hm).isLegible⟩, fun move => ?_⟩
  · rw [hlatest, length_latest]
  · have hlast : start.run (moves ++ [move]) = (start.run moves).act move := List.foldl_append
    obtain ⟨lines, htranscribes, hwrites⟩ := transcribes_act (start.run moves) move
    refine ⟨lines, hlast ▸ htranscribes.written, hwrites, fun hnone => ?_⟩
    rw [hlast, htranscribes.history, hnone]
    rfl

/-- A session that remembers two lines. -/
def forgetfulStart : Session :=
  opened "main" "localhost:1" { historyLimit := 2 } .editor "/tmp" (fun drawn => 0xA0 + drawn)

/-- One line is sent and one is not because of its namespace. Another one is sent, then a query
for names, which is answered. The next line cannot be written, and the session is closed. -/
def failingMoves : List Move :=
  [.send .root "1" (JobOf.plain "a" "buffer" "repl"),
    .call (.dotted "Main..Plots") "2" (JobOf.plain "a" "buffer" "repl"),
    .eval (.dotted "Main.Plots") "a\nb ",
    .askNames .base,
    .feed (Utf8.encode "(response-done \"000000a2\" (\"sin\" \"cos\"))\n".toList),
    .breakWrites,
    .send .root "3" (JobOf.plain "a" "buffer" "repl"),
    .close]

/-- Three lines are written, and the last two are remembered. -/
theorem history_run_failingMoves :
    forgetfulStart = opened "main" "localhost:1" { historyLimit := 2 } .editor "/tmp"
        (fun drawn => 0xA0 + drawn) ∧
      (forgetfulStart.run failingMoves).written.map (·.id) = ["000000a0", "000000a1", "000000a2"] ∧
      (forgetfulStart.run failingMoves).history
        = [⟨"000000a1", "(ns = [:Main, :Plots], reqid = \"000000a1\", code = \"a\\nb \")"⟩,
          ⟨"000000a2", "(ns = [:Main], reqid = \"000000a2\", code = \"string.(names(Base))\")"⟩] ∧
      (forgetfulStart.run failingMoves).IsTranscribed 2 ∧
      ∀ move, ∃ lines,
        (forgetfulStart.run (failingMoves ++ [move])).written
          = (forgetfulStart.run failingMoves).written ++ lines ∧
        move.Writes (forgetfulStart.run failingMoves) lines ∧
        (lines = [] → (forgetfulStart.run (failingMoves ++ [move])).history
          = (forgetfulStart.run failingMoves).history) := by
  have hs : forgetfulStart = opened "main" "localhost:1" { historyLimit := 2 } .editor "/tmp"
      (fun drawn => 0xA0 + drawn) := rfl
  have hids : (forgetfulStart.run failingMoves).written.map (·.id)
      = ["000000a0", "000000a1", "000000a2"] := by decide +kernel
  have hhistory : (forgetfulStart.run failingMoves).history
      = [⟨"000000a1", "(ns = [:Main, :Plots], reqid = \"000000a1\", code = \"a\\nb \")"⟩,
        ⟨"000000a2", "(ns = [:Main], reqid = \"000000a2\", code = \"string.(names(Base))\")"⟩] := by
    decide +kernel
  exact ⟨hs, hids, hhistory, history_run hs failingMoves⟩

end Session

end ReplLink
