import ReplLink.Proofs.Routing.Answers
import ReplLink.Proofs.Routing.Charges
import ReplLink.Session.Calls

/-!
# Outstanding requests

Sending registers a request, calling also notes who waits for it, and bytes
that come in settle some. A caller has a number of its own, so no two requests
ever have the same caller waiting.
-/

namespace ReplLink.Session

open ReplLink.Routing ReplLink.Stream ReplLink.Text

/-- A session accepts with its router only. -/
theorem accept_eq (session : Session) (count : Nat) (delivery : Delivery) :
    accept (session, count) delivery
      = ({ session with
            router := (Router.accept session.context (session.router, count) delivery).1 },
          (Router.accept session.context (session.router, count) delivery).2) := by
  cases delivery with
  | violation why consumed => rfl
  | response answer =>
    rw [accept, Router.accept]
    dsimp only
    split <;> simp_all

theorem foldl_accept_eq (deliveries : List Delivery) (session : Session) (count : Nat) :
    deliveries.foldl accept (session, count)
      = ({ session with
            router := (deliveries.foldl (Router.accept session.context)
              (session.router, count)).1 },
          (deliveries.foldl (Router.accept session.context) (session.router, count)).2) := by
  induction deliveries generalizing session count with
  | nil => rfl
  | cons delivery rest ih => rw [List.foldl_cons, accept_eq, ih, List.foldl_cons]

/-- Bytes that come in change the inbox and the router only. -/
theorem receive_eq (session : Session) (chunk : Bytes) :
    session.receive chunk
      = ({ session with
            inbox := (session.inbox.receive chunk).2
            router := ((session.inbox.receive chunk).1.foldl (Router.accept session.context)
              (session.router, 0)).1 },
          ((session.inbox.receive chunk).1.foldl (Router.accept session.context)
            (session.router, 0)).2) :=
  foldl_accept_eq _ { session with inbox := (session.inbox.receive chunk).2 } 0

/-- The requests that wait have passive callbacks, and callers with numbers of
their own, all of them given out before. -/
structure Outstanding (session : Session) : Prop where
  /-- The router is in order. -/
  awaits : session.router.IsAwaiting
  /-- A caller who waits has got a number. -/
  numbered : ∀ id job waiter, session.router.roster.heldUnder id = some job →
    job.waiter = some waiter → waiter < session.nextTicket
  /-- So has a caller who was told something. -/
  toldNumbered : ∀ waiter word, (waiter, word) ∈ session.router.words →
    waiter < session.nextTicket

/-- What remains of the requests is in order when nobody else was told
anything and no number was taken back. -/
theorem Outstanding.of_subset {before after : Session} (h : before.Outstanding)
    (hroster : ∀ id job, after.router.roster.heldUnder id = some job →
      before.router.roster.heldUnder id = some job)
    (hwords : after.router.words = before.router.words)
    (hticket : before.nextTicket ≤ after.nextTicket) : after.Outstanding where
  awaits :=
    { passive := fun id job hh => h.awaits.passive id job (hroster id job hh)
      apart := fun id job other second waiter hh ho =>
        h.awaits.apart id job other second waiter (hroster id job hh) (hroster other second ho)
      untold := fun id job waiter hh hw => by
        have hold := h.awaits.untold id job waiter (hroster id job hh) hw
        rw [Router.wordFor] at hold ⊢
        rw [hwords, hold] }
  numbered := fun id job waiter hh hw =>
    Nat.lt_of_lt_of_le (h.numbered id job waiter (hroster id job hh) hw) hticket
  toldNumbered := fun waiter word hm =>
    Nat.lt_of_lt_of_le (h.toldNumbered waiter word (hwords ▸ hm)) hticket

/-- One more request with passive callbacks and with no caller, or a caller
whose number is new, is in order. -/
theorem Outstanding.of_put {before after : Session} (h : before.Outstanding) {id : String}
    {job : Job} (hp : job.IsPassive)
    (hw : ∀ waiter, job.waiter = some waiter →
      before.nextTicket ≤ waiter ∧ waiter < after.nextTicket)
    (hroster : after.router.roster = before.router.roster.put id (.held job))
    (hwords : after.router.words = before.router.words)
    (hticket : before.nextTicket ≤ after.nextTicket) : after.Outstanding := by
  have hcases : ∀ other found, after.router.roster.heldUnder other = some found →
      other = id ∧ found = job ∨ before.router.roster.heldUnder other = some found := by
    intro other found ho
    rw [hroster] at ho
    exact Roster.heldUnder_put ho
  have hold : ∀ other found waiter, before.router.roster.heldUnder other = some found →
      found.waiter = some waiter → job.waiter ≠ some waiter := by
    intro other found waiter ho hf hj
    have hlt := h.numbered other found waiter ho hf
    have hle := (hw waiter hj).1
    omega
  refine
    { awaits :=
        { passive := fun other found ho => ?_
          apart := fun first found second next waiter hf hs hfw hsw => ?_
          untold := fun other found waiter ho hf => ?_ }
      numbered := fun other found waiter ho hf => ?_
      toldNumbered := fun waiter word hm => ?_ }
  · rcases hcases other found ho with ⟨-, rfl⟩ | ho
    · exact hp
    · exact h.awaits.passive other found ho
  · rcases hcases first found hf with ⟨rfl, rfl⟩ | hf
    · rcases hcases second next hs with ⟨rfl, -⟩ | hs
      · rfl
      · exact absurd hfw (hold second next waiter hs hsw)
    · rcases hcases second next hs with ⟨rfl, rfl⟩ | hs
      · exact absurd hsw (hold first found waiter hf hfw)
      · exact h.awaits.apart first found second next waiter hf hs hfw hsw
  · rw [Router.wordFor, hwords]
    rcases hcases other found ho with ⟨-, rfl⟩ | ho
    · -- A new number has not been told anything.
      have hle := (hw waiter hf).1
      rw [List.lookup_eq_none_iff]
      intro pair hm
      have hlt := h.toldNumbered pair.1 pair.2 hm
      rw [bne_iff_ne]
      omega
    · exact h.awaits.untold other found waiter ho hf
  · rcases hcases other found ho with ⟨-, rfl⟩ | ho
    · exact (hw waiter hf).2
    · exact Nat.lt_of_lt_of_le (h.numbered other found waiter ho hf) hticket
  · exact Nat.lt_of_lt_of_le (h.toldNumbered waiter word (hwords ▸ hm)) hticket

/-- The request that sending code would make. -/
def chargeFor (session : Session) (code : String) (job : Job) : Charge where
  id := RequestId.fresh (session.draw session.drawn) session.router.roster
  code := code
  job := job
  spilled := session.mustSpill code job

/-- The session with one more request, before its line is written. -/
def entered (session : Session) (charge : Charge) : Session :=
  { session with
    router := session.router.take session.spillPath charge
    drawn := session.drawn + 1 }

/-- A request that has been entered waits for its response. -/
theorem heldUnder_entered (session : Session) (charge : Charge) :
    (session.entered charge).router.roster.heldUnder charge.id
      = some (charge.registered session.spillPath) := by
  rw [entered, Router.take, Roster.heldUnder, Keyed.get?_put_self]

/-- What was outstanding before is left when it is struck out again. -/
theorem erase_entered {session : Session} {charge : Charge}
    (hfree : session.router.roster.get? charge.id = none) :
    (session.entered charge).router.roster.erase charge.id = session.router.roster := by
  rw [entered, Router.take, Keyed.erase_put, Keyed.erase_of_get?_none hfree]

/-- Sending is refused and leaves everything as it is, or enters a request and
writes its line. -/
theorem send_cases (session : Session) (path : Namespace) (code : String) (job : Job) :
    (∃ error, session.send path code job = (session, .error error)) ∨
      ∃ line, session.send path code job
        = (session.entered (session.chargeFor code job)).write (session.chargeFor code job).id
            line := by
  unfold send
  split
  · exact .inl ⟨_, rfl⟩
  · split
    · exact .inl ⟨_, rfl⟩
    · dsimp only
      cases hs : session.mustSpill code job with
      | true =>
        rw [if_pos rfl]
        split
        · exact .inl ⟨_, rfl⟩
        · rw [chargeFor, hs]
          exact .inr ⟨_, rfl⟩
      | false =>
        rw [chargeFor, hs]
        exact .inr ⟨_, rfl⟩

/-- A request that waits is taken back with its file and its busy time. -/
theorem takeBack_eq {session : Session} {id : String} {job : Job}
    (h : session.router.roster.heldUnder id = some job) (error : SessionError) :
    session.takeBack id error
      = { session with
          router :=
            { frontEnd := session.router.frontEnd
              roster := session.router.roster.erase id
              files := filesWithout job session.router.files
              words := session.router.words
              log := session.router.log
                ++ [.notice (.notSent session.context id error.message)]
                ++ session.router.frontEnd.stop job.origin } } := by
  have htaken : Roster.takeBack session.router.roster id
      = some (job, session.router.roster.erase id) := by
    rw [Roster.takeBack, Roster.get?_of_heldUnder h]
  have hnote : (session.note [.notice (.notSent session.context id error.message)]).router.roster
      = session.router.roster := rfl
  rw [takeBack, hnote, htaken]
  dsimp only
  rw [Router.release_eq]
  rfl

/-- A request that waits is taken back without a word. -/
theorem takeBack_of_held {session : Session} {id : String} {job : Job}
    (h : session.router.roster.heldUnder id = some job) (error : SessionError) :
    (session.takeBack id error).router.words = session.router.words ∧
      (session.takeBack id error).nextTicket = session.nextTicket ∧
      (session.takeBack id error).router.roster = session.router.roster.erase id := by
  rw [takeBack_eq h]
  exact ⟨rfl, rfl, rfl⟩

/-- Writing the line of a request that waits leaves it registered, or takes it
back. Nobody is told anything. -/
theorem write_cases {session : Session} {id : String} {job : Job}
    (h : session.router.roster.heldUnder id = some job) (line : String) :
    (session.write id line).1.router.words = session.router.words ∧
      (session.write id line).1.nextTicket = session.nextTicket ∧
      ((∃ sent, (session.write id line).2 = .ok sent) ∧
          (session.write id line).1.router.roster = session.router.roster ∨
        (∃ error, (session.write id line).2 = .error error) ∧
          (session.write id line).1.router.roster = session.router.roster.erase id) := by
  unfold write
  cases session.channel with
  | up => exact ⟨rfl, rfl, .inl ⟨⟨_, rfl⟩, rfl⟩⟩
  | broken =>
    obtain ⟨hwords, hticket, hroster⟩ := takeBack_of_held h (.unsent brokenPipe)
    exact ⟨hwords, hticket, .inr ⟨⟨_, rfl⟩, hroster⟩⟩
  | shut =>
    obtain ⟨hwords, hticket, hroster⟩ := takeBack_of_held h .closed
    exact ⟨hwords, hticket, .inr ⟨⟨_, rfl⟩, hroster⟩⟩

/-- What sending a job comes to: a job with the same callbacks and the same
caller is registered, or the roster has nothing new. Nobody is told anything. -/
structure Sends (before : Session) (job : Job) (after : Session)
    (result : Except SessionError Sent) : Prop where
  /-- The callers have been told what they had been told. -/
  words : after.router.words = before.router.words
  /-- No number is given out. -/
  ticket : after.nextTicket = before.nextTicket
  /-- The job is registered if it is sent. -/
  roster : (∃ sent, result = .ok sent) ∧
      (∃ id registered, registered.onSuccess = job.onSuccess ∧
        registered.onFailure = job.onFailure ∧ registered.waiter = job.waiter ∧
        after.router.roster = before.router.roster.put id (.held registered)) ∨
    (∃ error, result = .error error) ∧
      ∀ id found, after.router.roster.heldUnder id = some found →
        before.router.roster.heldUnder id = some found

/-- A refusal to send leaves the session as it is. -/
theorem sends_refused (session : Session) (job : Job) (error : SessionError) :
    Sends session job session (.error error) :=
  ⟨rfl, rfl, .inr ⟨⟨error, rfl⟩, fun _ _ h => h⟩⟩

/-- Sending code sends its job. -/
theorem sends_send (session : Session) (path : Namespace) (code : String) (job : Job) :
    Sends session job (session.send path code job).1 (session.send path code job).2 := by
  rcases send_cases session path code job with ⟨error, hs⟩ | ⟨line, hs⟩
  · rw [hs]
    exact sends_refused session job error
  · let charge := session.chargeFor code job
    obtain ⟨hwords, hticket, hcases⟩ := write_cases (session.heldUnder_entered charge) line
    have hsame := charge.callbacks_registered session.spillPath
    rw [hs]
    refine ⟨hwords, hticket, ?_⟩
    rcases hcases with ⟨hok, hroster⟩ | ⟨herror, hroster⟩
    · exact .inl ⟨hok, _, _, hsame.1, hsame.2.1, hsame.2.2, hroster⟩
    · refine .inr ⟨herror, fun other found ho => ?_⟩
      rw [hroster, entered, Router.take, Keyed.erase_put] at ho
      exact (Roster.heldUnder_of_erase ho).2

/-- Sending a passive job that nobody waits for keeps the requests in order. -/
theorem Outstanding.send {session : Session} (h : session.Outstanding) (path : Namespace)
    (code : String) {job : Job} (hp : job.IsPassive) (hw : job.waiter = none) :
    (session.send path code job).1.Outstanding := by
  obtain ⟨hwords, hticket, hroster⟩ := sends_send session path code job
  rcases hroster with ⟨-, id, registered, hs, hf, hw', hroster⟩ | ⟨-, hroster⟩
  · refine h.of_put ?_ ?_ hroster hwords (Nat.le_of_eq hticket.symm)
    · exact ⟨hs ▸ hp.1, hf ▸ hp.2⟩
    · intro waiter hwaiter
      rw [hw', hw] at hwaiter
      exact absurd hwaiter (by simp)
  · exact h.of_subset hroster hwords (Nat.le_of_eq hticket.symm)

/-- So does a call with a passive job. -/
theorem Outstanding.call {session : Session} (h : session.Outstanding) (path : Namespace)
    (code : String) {job : Job} (hp : job.IsPassive) :
    (session.call path code job).1.Outstanding := by
  have hs := sends_send session path code { job with waiter := some session.nextTicket }
  unfold Session.call
  dsimp only
  split
  · next after sent hsend =>
    rw [hsend] at hs
    obtain ⟨hwords, hticket, hroster⟩ := hs
    rcases hroster with ⟨-, id, registered, hs, hf, hw, hroster⟩ | ⟨⟨error, he⟩, -⟩
    · have hpassive : registered.IsPassive := ⟨hs ▸ hp.1, hf ▸ hp.2⟩
      refine h.of_put hpassive ?_ hroster hwords (Nat.le_succ _)
      intro waiter hwaiter
      rw [hw] at hwaiter
      obtain rfl := Option.some.inj hwaiter
      exact ⟨Nat.le_refl _, Nat.lt_succ_self _⟩
    · exact absurd he (by simp)
  · next after error hsend =>
    rw [hsend] at hs
    obtain ⟨hwords, hticket, hroster⟩ := hs
    rcases hroster with ⟨⟨sent, he⟩, -⟩ | ⟨-, hroster⟩
    · exact absurd he (by simp)
    · exact h.of_subset hroster hwords (Nat.le_of_eq hticket.symm)

/-- Requests that are settled leave the others in order: who is told has waited for a
request that is gone. -/
theorem Outstanding.of_settles {before after : Session} (h : before.Outstanding)
    {answers : List Response}
    (hs : before.router.Settles (settlements before.router.roster answers) after.router)
    (hticket : after.nextTicket = before.nextTicket) : after.Outstanding where
  awaits :=
    { passive := fun id job hh => h.awaits.passive id job (hs.heldUnder hh).2
      apart := fun id job other second waiter hh ho =>
        h.awaits.apart id job other second waiter (hs.heldUnder hh).2 (hs.heldUnder ho).2
      untold := fun id job waiter hh hw =>
        hs.wordFor_none h.awaits (hs.heldUnder hh).2 hw (hs.heldUnder hh).1 }
  numbered := fun id job waiter hh hw => by
    rw [hticket]
    exact h.numbered id job waiter (hs.heldUnder hh).2 hw
  toldNumbered := fun waiter word hm => by
    rw [hticket]
    rw [hs.words] at hm
    rcases List.mem_append.mp hm with hm | hm
    · obtain ⟨pair, hp, hw, -⟩ := mem_settledWords.mp hm
      exact h.numbered _ _ waiter (mem_settlements hp).2 hw
    · exact h.toldNumbered waiter word hm

/-- Bytes that come in keep the requests in order. -/
theorem Outstanding.receive {session : Session} (h : session.Outstanding) (chunk : Bytes) :
    (session.receive chunk).1.Outstanding := by
  obtain ⟨hs, -⟩ := Router.settles_foldl_accept session.context
    (session.inbox.receive chunk).1 h.awaits.passive 0
  rw [receive_eq]
  exact h.of_settles hs rfl

/-- The sessions that requests with passive callbacks and incoming bytes lead
to from a session. -/
inductive LeadsTo (session : Session) : Session → Prop
  /-- Nothing has happened. -/
  | refl : LeadsTo session session
  /-- Code is sent for which nobody waits. -/
  | send {now : Session} (path : Namespace) (code : String) (job : Job) (hp : job.IsPassive)
    (hw : job.waiter = none) (h : LeadsTo session now) : LeadsTo session (now.send path code job).1
  /-- Code is sent and a caller waits. -/
  | call {now : Session} (path : Namespace) (code : String) (job : Job) (hp : job.IsPassive)
    (h : LeadsTo session now) : LeadsTo session (now.call path code job).1
  /-- Bytes come in. -/
  | receive {now : Session} (chunk : Bytes) (h : LeadsTo session now) :
    LeadsTo session (now.receive chunk).1

/-- Whatever requests were sent, and whatever came in since, the requests that
wait are in order. -/
theorem Outstanding.run {session now : Session} (h : session.Outstanding)
    (hl : session.LeadsTo now) : now.Outstanding := by
  induction hl with
  | refl => exact h
  | send path code job hp hw _ ih => exact ih.send path code hp hw
  | call path code job hp _ ih => exact ih.call path code hp
  | receive chunk _ ih => exact ih.receive chunk

end ReplLink.Session
