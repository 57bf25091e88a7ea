import ReplLink.Proofs.Routing.Fates
import ReplLink.Proofs.Routing.RequestId
import ReplLink.Proofs.Session.Outstanding

/-!
# What becomes of the request of a caller

A caller who waits has its request registered under an id. `Undergoes` says what a
session undergoes, deed by deed, and writes down the stages of that request while the
router carries out commands. It is ended once at most, with the callback that its ending
calls for, and the caller is told the word of that ending and no other.
-/

namespace ReplLink.Session

open ReplLink.Routing

/-- What a session undergoes, deed by deed, and on the way the stages of the request that is
registered under an id and that a caller waits for. -/
inductive Undergoes (id : String) (waiter : Nat) (start : Session) :
    Session → List JobStage → Prop
  /-- At the start nothing has happened. -/
  | begun : Undergoes id waiter start start []
  /-- Code is sent. If anybody waits for it, it is a new caller. -/
  | sent {now : Session} {stages : List JobStage} (path : Namespace) (code : String) {job : Job}
    (hj : job.AddsNoWaiter) (hw : ∀ other, job.waiter = some other → other = now.nextTicket)
    (h : Undergoes id waiter start now stages) :
    Undergoes id waiter start (now.send path code job).1 stages
  /-- The router carries out a command. -/
  | carriedOut {now : Session} {stages more : List JobStage} {command : Command}
    (hc : command.AddsNoWaiter) (ht : now.router.Stages command id waiter more)
    (h : Undergoes id waiter start now stages) :
    Undergoes id waiter start { now with router := (now.router.perform command).1 }
      (stages ++ more)
  /-- Something happens that callers who wait have nothing to do with. -/
  | kept {now after : Session} {stages : List JobStage} (h : Undergoes id waiter start now stages)
    (hr : after.router.roster = now.router.roster) (hw : after.router.words = now.router.words)
    (hn : now.nextTicket ≤ after.nextTicket) : Undergoes id waiter start after stages

/-- All of a session that its callers are numbered in. -/
structure Callers where
  /-- The registered jobs. -/
  roster : Roster
  /-- What callers have been told. -/
  words : List (Nat × Word)
  /-- Those who want the names of the standard library. -/
  base : Queue
  /-- Those who want the names built into the interpreter. -/
  core : Queue
  /-- What callers have got who had to wait. -/
  settled : List (Nat × Settled)
  /-- The number of the next caller. -/
  next : Nat

/-- The callers of a session. -/
def callers (session : Session) : Callers where
  roster := session.router.roster
  words := session.router.words
  base := session.baseQueue
  core := session.coreQueue
  settled := session.settled
  next := session.nextTicket

/-- What becomes of the roster when code is sent: a job with the same callbacks and the same
caller is registered under a free id, or nothing happens. -/
structure Registers (before : Session) (job : Job) (after : Session)
    (result : Except SessionError Sent) : Prop where
  /-- Of what callers are numbered in, only the roster changes. -/
  callers : after.callers = { before.callers with roster := after.router.roster }
  /-- The job is registered if it is sent. -/
  roster : (∃ sent registered, result = .ok sent ∧
      before.router.roster.get? sent.id = none ∧
      registered.onSuccess = job.onSuccess ∧ registered.onFailure = job.onFailure ∧
      registered.waiter = job.waiter ∧
      after.router.roster = before.router.roster.put sent.id (.held registered)) ∨
    (∃ error, result = .error error) ∧ after.router.roster = before.router.roster

/-- Sending code registers its job. -/
theorem registers_send (session : Session) (path : Namespace) (code : String) (job : Job) :
    Registers session job (session.send path code job).1 (session.send path code job).2 := by
  rcases send_cases session path code job with ⟨error, hs⟩ | ⟨line, hs⟩
  · rw [hs]
    exact ⟨rfl, .inr ⟨⟨error, rfl⟩, rfl⟩⟩
  · let charge := session.chargeFor code job
    have hfree : session.router.roster.get? charge.id = none := RequestId.get?_fresh _ _
    have hheld := session.heldUnder_entered charge
    have hsame := charge.callbacks_registered session.spillPath
    have hback := erase_entered hfree
    have hregistered : (∃ sent registered,
          (Except.ok ⟨charge.id, line⟩ : Except SessionError Sent) = .ok sent ∧
          session.router.roster.get? sent.id = none ∧
          registered.onSuccess = job.onSuccess ∧ registered.onFailure = job.onFailure ∧
          registered.waiter = job.waiter ∧
          (session.entered charge).router.roster
            = session.router.roster.put sent.id (.held registered)) :=
      ⟨_, _, rfl, hfree, hsame.1, hsame.2.1, hsame.2.2, rfl⟩
    have htaken (error : SessionError) : Registers session job
        ((session.entered charge).takeBack charge.id error) (.error error) := by
      rw [takeBack_eq hheld]
      exact ⟨rfl, .inr ⟨⟨error, rfl⟩, hback⟩⟩
    rw [hs, write]
    split
    · exact ⟨rfl, .inl hregistered⟩
    · exact htaken _
    · exact htaken _

/-- The registered job adds nobody who waits if the sent one adds nobody. -/
theorem Registers.addsNoWaiter {before after : Session} {job : Job}
    {result : Except SessionError Sent} (h : Registers before job after result)
    (hb : before.router.AddsNoWaiter) (hj : job.AddsNoWaiter) : after.router.AddsNoWaiter := by
  rcases h.roster with ⟨sent, registered, -, hfree, hs, hf, -, hroster⟩ | ⟨-, hroster⟩
  · refine ⟨hroster ▸ hb.roster.put_held (hj.congr hs hf), ?_⟩
    have hout := Roster.outIds_enter hfree registered
    rw [hb.rest] at hout
    rw [hroster, hout.eq_nil]
  · exact ⟨hroster ▸ hb.roster, hroster ▸ hb.rest⟩

/-- A job that somebody else waits for changes nothing for the caller. -/
theorem Registers.stands {before after : Session} {job : Job}
    {result : Except SessionError Sent} (h : Registers before job after result) {id : String}
    {other : Job} {waiter : Nat} (hw : job.waiter ≠ some waiter) {stages : List JobStage}
    (hs : before.router.Stands id other waiter stages) :
    after.router.Stands id other waiter stages := by
  have htold : after.router.told waiter = before.router.told waiter := by
    have hwords : after.router.words = before.router.words := congrArg Callers.words h.callers
    rw [Router.told, hwords, ← Router.told]
  have hsame : (after.router.roster.waitingFor waiter).Perm
      (before.router.roster.waitingFor waiter) := by
    rcases h.roster with ⟨sent, registered, -, hfree, -, -, hwaiter, hroster⟩ | ⟨-, hroster⟩
    · have hp := (Roster.waiting_enter hfree registered).filter
        fun pair => pair.2.waiter = some waiter
      rwa [List.filter_cons_of_neg (by simpa [hwaiter] using hw), ← hroster] at hp
    · rw [hroster]
  rcases hs with ⟨he, hf, ht⟩ | ⟨ending, he, hp, hn, ht⟩
  · exact .inl ⟨he, List.perm_singleton.mp (hf ▸ hsame), htold.trans ht⟩
  · exact .inr ⟨ending, he, hp, (hn ▸ hsame).eq_nil, htold.trans ht⟩

/-- Whatever a session undergoes, the caller waits for the request, or has been told the word
of its one ending. -/
theorem Undergoes.stands {id : String} {job : Job} {waiter : Nat} {start now : Session}
    {stages : List JobStage} (h : start.Undergoes id waiter now stages)
    (hb : start.router.AddsNoWaiter) (hs : start.router.Stands id job waiter [])
    (hw : waiter < start.nextTicket) :
    now.router.AddsNoWaiter ∧ waiter < now.nextTicket ∧
      now.router.Stands id job waiter stages := by
  induction h with
  | begun => exact ⟨hb, hw, hs⟩
  | @sent now stages path code sentJob hj hwaiter _ ih =>
    obtain ⟨hadds, hlt, hstands⟩ := ih
    have hr := registers_send now path code sentJob
    have hticket : (now.send path code sentJob).1.nextTicket = now.nextTicket :=
      congrArg Callers.next hr.callers
    refine ⟨hr.addsNoWaiter hadds hj, hticket ▸ hlt, hr.stands (fun hsame => ?_) hstands⟩
    exact absurd (hwaiter waiter hsame) (Nat.ne_of_lt hlt)
  | carriedOut hc hm _ ih =>
    obtain ⟨hadds, hlt, hstands⟩ := ih
    exact ⟨hadds.perform hc, hlt, hstands.perform hadds hc hm⟩
  | kept _ hr hwords hn ih =>
    obtain ⟨hadds, hlt, hstands⟩ := ih
    refine ⟨⟨hr ▸ hadds.roster, hr ▸ hadds.rest⟩, Nat.lt_of_lt_of_le hlt hn, ?_⟩
    rwa [Router.Stands, Router.told, hr, hwords]

end ReplLink.Session
