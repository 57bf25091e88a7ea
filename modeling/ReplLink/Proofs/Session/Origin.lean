import ReplLink.Proofs.Session.Inert

/-!
# What a session was opened with

A session belongs to the context that it was opened for, whatever happens to it. It also
keeps its own policy for the jobs at its end, so of many sessions with different settings
each can be followed by itself: it is tidy from the start, and where somebody who closes it
is done, it has stopped for good.
-/

namespace ReplLink.Session

open ReplLink.Routing ReplLink.Stream ReplLink.Text

section Context

theorem context_takeBack (session : Session) (id : String) (error : SessionError) :
    (session.takeBack id error).context = session.context := by
  unfold takeBack
  dsimp only
  split <;> rfl

theorem context_write (session : Session) (id line : String) :
    (session.write id line).1.context = session.context := by
  unfold write
  split
  · rfl
  · exact context_takeBack session id _
  · exact context_takeBack session id _

/-- A request that is sent does not change the context. -/
theorem context_send (session : Session) (path : Namespace) (code : String) (job : Job) :
    (session.send path code job).1.context = session.context := by
  rcases send_cases session path code job with ⟨error, hs⟩ | ⟨line, hs⟩
  · rw [hs]
  · rw [hs, context_write]
    rfl

theorem context_call (session : Session) (path : Namespace) (code : String) (job : Job) :
    (session.call path code job).1.context = session.context := by
  have hsend := context_send session path code { job with waiter := some session.nextTicket }
  unfold call
  dsimp only
  split
  · next after sent hs =>
    rw [hs] at hsend
    exact hsend
  · next after error hs =>
    rw [hs] at hsend
    exact hsend

/-- Nor do bytes that come in. -/
theorem context_receive (session : Session) (chunk : Bytes) :
    (session.receive chunk).1.context = session.context := by
  rw [receive_eq]

theorem context_setQueue (session : Session) (list : NameList) (queue : Queue) :
    (session.setQueue list queue).context = session.context := by
  cases list <;> rfl

theorem context_vacate (session : Session) (list : NameList) (ticket : Nat) (wasOpen : Bool) :
    (session.vacate list ticket wasOpen).context = session.context := by
  cases list <;> rfl

/-- Nor does serving a line. -/
theorem context_serve (list : NameList) (claims : List Claim) (session : Session) :
    (serve list claims session).1.context = session.context := by
  induction claims generalizing session with
  | nil => rfl
  | cons claim rest ih =>
    cases claim with
    | close ticket wasOpen =>
      rw [serve, ih]
      exact context_vacate session list ticket wasOpen
    | names ticket =>
      have hcall := context_call session .root (session.settings.question list) session.inquiry
      rw [serve]
      split
      · exact ih _
      · split
        · next after sent waiter hs =>
          rw [hs] at hcall
          exact hcall
        · next after error hs =>
          rw [hs] at hcall
          exact (ih _).trans hcall

theorem context_serveList (list : NameList) (session : Session) :
    (serveList list session).context = session.context := by
  rw [serveList_eq, context_setQueue, context_serve, context_setQueue]

theorem context_endQuery (session : Session) (list : NameList) (query : Query) :
    (session.endQuery list query).context = session.context :=
  context_serveList list _

theorem context_resumeList (list : NameList) (session : Session) :
    (resumeList list session).context = session.context := by
  unfold resumeList
  split
  · exact context_serveList list session
  · split
    · exact context_endQuery session list _
    · rfl

/-- Nor do both lists when they go on. -/
theorem context_resume (session : Session) : session.resume.context = session.context :=
  (context_resumeList .core _).trans (context_resumeList .base session)

/-- No move gives a session to another context. -/
theorem context_act (session : Session) (move : Move) :
    (session.act move).context = session.context := by
  cases move with
  | send path code job => exact context_send session path code job
  | call path code job => exact context_call session path code job
  | eval path code => exact context_call session path code session.evaluation
  | askNames list => exact (context_resume _).trans (context_setQueue _ list _)
  | expireNames list =>
    unfold act expireNames
    dsimp only
    split
    · exact (context_resume _).trans (context_endQuery session list _)
    · rfl
  | receive chunk => exact context_receive session chunk
  | resume => exact context_resume session
  | feed chunk => exact (context_resume _).trans (context_receive session chunk)
  | hangUp =>
    unfold act hangUp
    dsimp only
    split <;> rfl
  | readFails cause =>
    unfold act readFails
    dsimp only
    split <;> rfl
  | breakWrites =>
    unfold act breakWrites
    dsimp only
    split <;> rfl
  | close => exact (context_resume _).trans (context_setQueue _ .base _)
  | allowSpills canSpill => rfl
  | place attachment => rfl
  | deleteFile path => rfl

end Context

section Policy

variable {session : Session}

/-- The session is tidy under its own policy. -/
def IsUpright (session : Session) : Prop := session.IsTidy session.settings.onClose

/-- A session that was just opened is tidy under its own policy. -/
theorem isUpright_opened (context address : String) (settings : Settings) (frontEnd : FrontEnd)
    (spillDirectory : String) (draw : Nat → Nat) :
    (opened context address settings frontEnd spillDirectory draw).IsUpright :=
  isTidy_opened context address settings frontEnd spillDirectory draw

/-- A move that ends its job quietly leaves the session tidy under its own policy. -/
theorem IsUpright.act (h : session.IsUpright) {move : Move}
    (hm : move.EndsQuietly session.settings.onClose) : (session.act move).IsUpright := by
  have htidy := IsTidy.act h hm
  unfold IsUpright
  rw [htidy.orderly.setting]
  exact htidy

/-- Where somebody who closes it is done, the session has stopped. -/
theorem IsUpright.hasStopped (h : session.IsUpright) {ticket : Nat}
    (hd : (session.endedBy ticket).isSome) : session.HasStopped := by
  obtain ⟨count, hcount⟩ := Option.isSome_iff_exists.mp hd
  exact IsTidy.hasStopped h hcount

end Policy

end ReplLink.Session
