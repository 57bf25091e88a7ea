import ReplLink.Proofs.Session.Renumbering

/-!
# Who calls only looks on

To call is to send and to look on. Two sessions are compared here that have come the
same way, until in one of them a caller calls and in the other one the same code is
only sent. Whatever is done to both of them afterwards, they look the same to everybody
but that caller, and everybody else gets the same. It does not matter whether the caller
has stopped waiting before the response comes. The caller itself finds the outcome of
the response that has ended its request, or the failure that closing the session has
ended it with, and nothing as long as it has not been ended or if it was abandoned.
-/

namespace ReplLink.Session

open ReplLink.Routing ReplLink.Stream ReplLink.Text

section Definitions

/-- The session looks like another one to everybody but one caller of the other one. Who
came behind that caller has a number that is lower by one. -/
structure LooksLike (session : Session) (left : Nat) (other : Session) : Prop where
  /-- The same lines were written. -/
  written : session.written = other.written
  /-- The same lines are remembered. -/
  history : session.history = other.history
  /-- The editor has seen the same, in the same order. -/
  log : session.router.log = other.router.log
  /-- The same requests are outstanding. -/
  ids : session.router.ids = other.router.ids
  /-- The same files are there. -/
  files : session.router.files = other.router.files
  /-- The same bytes are not used up. -/
  inbox : session.inbox = other.inbox
  /-- Both are connected, or none. -/
  connected : session.connected = other.connected
  /-- Writing does the same. -/
  channel : session.channel = other.channel
  /-- The same names are known. -/
  names : session.names = other.names
  /-- Other callers who wait for an outcome find the same. -/
  replies : ∀ caller, caller ≠ left →
    session.replyTo (shift (some left) caller) = other.replyTo caller
  /-- Callers who want names or close the session have got the same. -/
  settled : ∀ caller, caller ≠ left →
    session.settledFor (shift (some left) caller) = other.settledFor caller

/-- The request of a caller has gone through these stages, and the caller finds what came of
them. -/
structure IsAnswered (session : Session) (id : String) (job : Job) (waiter : Nat)
    (stages : List JobStage) : Prop where
  /-- It is ended once at most. -/
  once : (stages.filterMap JobStage.ending?).length ≤ 1
  /-- The callback that its ending calls for is started once, and no other is. -/
  callbacks : stages.filterMap JobStage.start?
    = (stages.filterMap JobStage.ending?).flatMap (Ending.starts job)
  /-- It is outstanding until it is ended. -/
  outstanding : stages.filterMap JobStage.ending? = [] ↔
    ∃ held, session.router.roster.heldUnder id = some held ∧ held.waiter = some waiter
  /-- The caller finds the outcome of a response, or the failure of a connection that went
  away. -/
  reply : ∀ outcome, session.replyTo waiter = some outcome ↔
    .ended (.answered outcome) ∈ stages ∨
      .ended (.dismissed .fail) ∈ stages ∧ outcome = .failure Router.connectionLost

end Definitions

/-- With one caller less a session looks the same. -/
theorem looksLike_renumber (session : Session) (left : Nat) :
    (session.renumber (some left)).LooksLike left session where
  written := rfl
  history := rfl
  log := rfl
  ids := Router.ids_renumber _ _
  files := rfl
  inbox := rfl
  connected := rfl
  channel := rfl
  names := rfl
  replies caller hc := by
    have hpresent : some left ≠ some caller := fun he => hc (Option.some.inj he).symm
    rw [replyTo, wordFor_renumber session hpresent, ← replyTo]
  settled caller hc := by
    have hpresent : some left ≠ some caller := fun he => hc (Option.some.inj he).symm
    exact lookup_renumberAll (skip_eq_iff hpresent) session.settled

section Start

variable {now : Session}

/-- Nobody waits whose number is still to be given out, -/
theorem Numbered.waitingFor_next (h : now.Numbered none) :
    now.router.roster.waitingFor now.nextTicket = [] := by
  refine List.filter_eq_nil_iff.mpr fun pair hp hw => ?_
  obtain ⟨id, job⟩ := pair
  have hheld := (Roster.mem_waiting_iff h.adds.roster.apart).mp hp
  have hsame := Roster.heldUnder_renumber (below now.nextTicket) now.router.roster id
  rw [h.roster, hheld, Option.map_some] at hsame
  have hjob : job = job.renumber (below now.nextTicket) := Option.some.inj hsame
  have hwaiter : job.waiter = some now.nextTicket := by simpa using hw
  have hnone : (job.renumber (below now.nextTicket)).waiter = none := by
    rw [JobOf.renumber, hwaiter, Option.bind_some]
    exact if_neg (Nat.lt_irrefl _)
  rw [← hjob, hwaiter] at hnone
  exact absurd hnone (by simp)

/-- nor has been told anything. -/
theorem Numbered.told_next (h : now.Numbered none) : now.router.told now.nextTicket = [] := by
  refine List.map_eq_nil_iff.mpr (List.filter_eq_nil_iff.mpr fun pair hp hw => ?_)
  rw [← h.words] at hp
  obtain ⟨⟨caller, word⟩, -, hc⟩ := List.mem_filterMap.mp hp
  have hpair : pair.1 = now.nextTicket := by simpa using hw
  dsimp only [below] at hc
  split at hc
  · next hlt =>
    obtain rfl := Option.some.inj hc
    exact Nat.lt_irrefl _ (hpair ▸ hlt)
  · cases hc

theorem renumberAll_of_lt {α : Type} {left : Nat} {pairs : List (Nat × α)}
    (h : ∀ pair ∈ pairs, pair.1 < left) : renumberAll (skip (some left)) pairs = pairs := by
  induction pairs with
  | nil => rfl
  | cons pair rest ih =>
    obtain ⟨hlt, hrest⟩ := List.forall_mem_cons.mp h
    have hpresent : some left ≠ some pair.1 := fun he => Nat.ne_of_gt hlt (Option.some.inj he)
    rw [renumberAll, List.filterMap_cons, ← renumberAll, skip_of_ne hpresent, shift_of_lt hlt,
      ih hrest]
    rfl

theorem renumber_queue_of_fits {left : Nat} {queue : Queue} (h : queue.Fits none left) :
    queue.renumber (some left) = queue := by
  obtain ⟨holder, line⟩ := queue
  have hholder : holder.map (Query.renumber (some left)) = holder := by
    cases holder with
    | none => rfl
    | some query =>
      obtain ⟨ht, hw⟩ := h.holder query rfl
      rw [Option.map_some, Query.renumber, shift_of_lt ht.given, shift_of_lt hw.given]
  have hline : line.map (Claim.renumber (some left)) = line := by
    refine (List.map_congr_left fun claim hc => ?_).trans (List.map_id line)
    have ht := (h.line claim hc).given
    cases claim with
    | names ticket => exact congrArg Claim.names (shift_of_lt ht)
    | close ticket wasOpen => exact congrArg (Claim.close · wasOpen) (shift_of_lt ht)
  rw [Queue.renumber, hholder, hline]

/-- Without a caller who is still to come a session is the same. -/
theorem Numbered.renumber_next (h : now.Numbered none) :
    now.renumber (some now.nextTicket) = now := by
  have hroster : now.router.roster.map (Holding.renumber (skip (some now.nextTicket)))
      = now.router.roster := by
    have hr := Roster.renumber_renumber (below now.nextTicket) (skip (some now.nextTicket))
      now.router.roster
    simp only [bind_below_skip] at hr
    rwa [h.roster] at hr
  have hwords : renumberAll (skip (some now.nextTicket)) now.router.words
      = now.router.words := by
    have hw := renumberAll_renumberAll (below now.nextTicket) (skip (some now.nextTicket))
      now.router.words
    simp only [bind_below_skip] at hw
    rwa [h.words] at hw
  have hsettled : renumberAll (skip (some now.nextTicket)) now.settled = now.settled :=
    renumberAll_of_lt fun pair hp => (h.settled pair hp).given
  have hbase : now.baseQueue.renumber (some now.nextTicket) = now.baseQueue :=
    renumber_queue_of_fits (h.queues .base)
  have hcore : now.coreQueue.renumber (some now.nextTicket) = now.coreQueue :=
    renumber_queue_of_fits (h.queues .core)
  have hnext : shift (some now.nextTicket) now.nextTicket = now.nextTicket := by
    rw [shift_some, if_neg (Nat.lt_irrefl _)]
  rw [renumber, Router.renumber, hroster, hwords, hsettled, hbase, hcore, hnext]

/-- At its start a session has no callers. -/
theorem numbered_opened (context address : String) (settings : Settings) (frontEnd : FrontEnd)
    (spillDirectory : String) (draw : Nat → Nat) :
    (opened context address settings frontEnd spillDirectory draw).Numbered none where
  adds := ⟨⟨List.nodup_nil, fun _ _ h => nomatch h⟩, rfl⟩
  roster := rfl
  words := rfl
  queues list := by
    cases list <;>
      exact ⟨fun _ h => absurd h (by simp [queueOf, opened]), fun _ h => absurd h List.not_mem_nil⟩
  settled _ h := absurd h List.not_mem_nil
  passed _ h := absurd h (by simp)

/-- Whatever its moves, its callers are numbered. -/
theorem numbered_run {start : Session} (h : start.Numbered none) {moves : List Move}
    (hm : ∀ move ∈ moves, move.AddsNoWaiter) : (start.run moves).Numbered none := by
  have hbeside : Parallel none start start (start.renumber none) :=
    ⟨h, rfl, fun _ _ => ⟨[], .begun⟩⟩
  exact (hbeside.run hm).numbered

end Start

section Call

variable {now : Session} {path : Namespace} {code : String} {job : Job}

/-- To send the code of a caller is to call without that caller. -/
theorem Numbered.send_eq (h : now.Numbered none) (path : Namespace) (code : String)
    (hw : job.waiter = none) :
    now.send path code job
      = ((now.call path code job).1.renumber (some now.nextTicket),
          (now.call path code job).2.map (·.1)) := by
  have hleft : skip (some now.nextTicket) now.nextTicket = none := if_pos rfl
  have hjob : JobOf.renumber (skip (some now.nextTicket))
      { job with waiter := some now.nextTicket } = job := by
    rw [JobOf.renumber, Option.bind_some, hleft, ← hw]
  have hsame := send_renumber (some now.nextTicket) now path code
    { job with waiter := some now.nextTicket }
  rw [h.renumber_next, hjob] at hsame
  have hr := registers_send now path code { job with waiter := some now.nextTicket }
  unfold Session.call
  dsimp only
  cases hs : now.send path code { job with waiter := some now.nextTicket } with
  | mk after result =>
    rw [hs] at hsame hr
    cases result with
    | error error => exact hsame
    | ok sent =>
      have hticket : after.nextTicket = now.nextTicket := congrArg Callers.next hr.callers
      have hnext : shift (some now.nextTicket) after.nextTicket
          = shift (some now.nextTicket) (now.nextTicket + 1) := by
        rw [hticket, shift_some, shift_some, if_neg (Nat.lt_irrefl _),
          if_pos (Nat.lt_succ_self _), Nat.add_sub_cancel]
      rw [hsame]
      exact congrArg (fun next =>
        (({ after.renumber (some now.nextTicket) with nextTicket := next } : Session),
          Except.ok sent)) hnext

/-- The next caller waits for the job that is sent for it. -/
theorem Numbered.stands_next (h : now.Numbered none) {after : Session} {sent : Sent}
    (hr : Registers now job after (.ok sent)) (hw : job.waiter = some now.nextTicket) :
    ∃ registered : Job, registered.onSuccess = job.onSuccess ∧
      registered.onFailure = job.onFailure ∧
      after.router.Stands sent.id registered now.nextTicket [] := by
  have hwords : after.router.words = now.router.words := congrArg Callers.words hr.callers
  rcases hr.roster with ⟨_, registered, hok, hfree, hsuccess, hfailure, hwaiter, hroster⟩ |
    ⟨⟨_, he⟩, -⟩
  · obtain rfl := Except.ok.inj hok
    have hjob : registered.waiter = some now.nextTicket := hwaiter.trans hw
    have hp := (Roster.waiting_enter hfree registered).filter
      fun pair => pair.2.waiter = some now.nextTicket
    rw [List.filter_cons_of_pos (by simpa using hjob)] at hp
    have hnone := h.waitingFor_next
    rw [Roster.waitingFor] at hnone
    rw [hnone, ← hroster] at hp
    have htold := h.told_next
    rw [Router.told, ← hwords] at htold
    exact ⟨registered, hsuccess, hfailure, .inl ⟨rfl, List.perm_singleton.mp hp, htold⟩⟩
  · cases he

/-- Behind a call the other callers are numbered, and the one who has called waits for its
request. -/
theorem Numbered.call_leaving (h : now.Numbered none) (hj : job.AddsNoWaiter) {after : Session}
    {sent : Sent} {waiter : Nat} (hc : now.call path code job = (after, .ok (sent, waiter))) :
    waiter = now.nextTicket ∧ after.Numbered (some waiter) ∧ waiter < after.nextTicket ∧
      ∃ registered : Job, registered.onSuccess = job.onSuccess ∧
        registered.onFailure = job.onFailure ∧
        after.router.Stands sent.id registered waiter [] := by
  have hnumbered := h.call path code hj
  have hr := registers_send now path code { job with waiter := some now.nextTicket }
  have hcall := hc
  unfold Session.call at hcall
  dsimp only at hcall
  cases hs : now.send path code { job with waiter := some now.nextTicket } with
  | mk entered result =>
    rw [hs] at hcall hr
    cases result with
    | error error => cases hcall
    | ok line =>
      obtain ⟨rfl, hpair⟩ := Prod.mk.inj hcall
      obtain ⟨rfl, rfl⟩ := Prod.mk.inj (Except.ok.inj hpair)
      rw [hc] at hnumbered
      have hbase : entered.baseQueue = now.baseQueue := congrArg Callers.base hr.callers
      have hcore : entered.coreQueue = now.coreQueue := congrArg Callers.core hr.callers
      have hsettled : entered.settled = now.settled := congrArg Callers.settled hr.callers
      refine ⟨rfl, ?_, Nat.lt_succ_self _, ?_⟩
      · refine
          { adds := hnumbered.adds
            roster := hnumbered.roster
            words := hnumbered.words
            queues := fun list => ?_
            settled := fun pair hp => ?_
            passed := fun left hl => Option.some.inj hl ▸ Nat.lt_succ_self _ }
        · cases list with
          | base =>
            rw [queueOf, hbase]
            exact (h.queues .base).leaving
          | core =>
            rw [queueOf, hcore]
            exact (h.queues .core).leaving
        · have hfits : Fits none now.nextTicket pair.1 := h.settled pair (hsettled ▸ hp)
          exact hfits.leaving
      · obtain ⟨registered, hsuccess, hfailure, hstands⟩ := h.stands_next hr rfl
        exact ⟨registered, hsuccess, hfailure, hstands⟩

/-- Only the callbacks of a job say what an ending calls for. -/
theorem starts_congr {registered : Job} (hs : registered.onSuccess = job.onSuccess)
    (hf : registered.onFailure = job.onFailure) (ending : Ending) :
    ending.starts registered = ending.starts job := by
  cases ending with
  | answered outcome =>
    cases outcome with
    | success value => exact congrArg (fun callback => [(_, callback)]) hs
    | failure failure => exact congrArg (fun callback => [(_, callback)]) hf
  | dismissed policy =>
    cases policy with
    | abandon => rfl
    | fail => exact congrArg (fun callback => [(_, callback)]) hf

theorem mem_filterMap_ending? {stages : List JobStage} {ending : Ending} :
    .ended ending ∈ stages ↔ ending ∈ stages.filterMap JobStage.ending? := by
  refine ⟨fun h => List.mem_filterMap.mpr ⟨_, h, rfl⟩, fun h => ?_⟩
  obtain ⟨stage, ht, he⟩ := List.mem_filterMap.mp h
  cases stage with
  | ended found => exact Option.some.inj he ▸ ht
  | started outcome callback => cases he

/-- A caller finds the word of the one ending of its request. -/
theorem isAnswered_of_stands {session : Session} (hn : session.router.roster.keys.Nodup)
    {id : String} {registered : Job} (hs : registered.onSuccess = job.onSuccess)
    (hf : registered.onFailure = job.onFailure) {waiter : Nat} {stages : List JobStage}
    (h : session.router.Stands id registered waiter stages) :
    session.IsAnswered id job waiter stages := by
  rcases h with ⟨rfl, hj, ht⟩ | ⟨ending, he, hp, hnone, ht⟩
  · have hheld := heldUnder_of_waitingFor hn (hj ▸ List.mem_singleton_self (id, registered))
    refine ⟨Nat.zero_le _, rfl, iff_of_true rfl ⟨registered, hheld⟩, fun outcome => ?_⟩
    rw [replyTo, Router.wordFor_eq_head?_told, ht]
    simp
  · refine ⟨Nat.le_of_eq (congrArg List.length he), ?_, iff_of_false ?_ ?_, fun outcome => ?_⟩
    · rw [he, List.flatMap_singleton, ← starts_congr hs hf]
      cases ending with
      | answered found => exact List.perm_singleton.mp hp
      | dismissed policy =>
        cases policy with
        | abandon => exact hp.eq_nil
        | fail => exact List.perm_singleton.mp hp
    · rw [he]
      exact List.cons_ne_nil _ _
    · rintro ⟨held, hheld, hw⟩
      exact heldUnder_of_waitingFor_nil hn hnone hheld hw
    · rw [replyTo, Router.wordFor_eq_head?_told, ht, mem_filterMap_ending?,
        mem_filterMap_ending?, he]
      cases ending with
      | answered found => simp [Ending.word, eq_comm]
      | dismissed policy =>
        cases policy with
        | abandon => simp [Ending.word, Router.lastWord]
        | fail => simp [Ending.word, Router.lastWord, eq_comm]

end Call

/-- Take any run of a session from its start, and let a caller call or let the same code only
be sent. Both have the same result, and where it is an error, both sessions are the same
then. Otherwise both sessions look the same to everybody else after whatever moves, and
each move yields the same in both. The caller's request is ended once at most. When the
caller stops waiting, it finds the outcome of the response that has ended the request
by then, or the failure of the connection that has gone away, and otherwise nothing. The
only condition is that jobs that callbacks register have no callers: only a session
gives them numbers. -/
theorem call_eq_send {context address : String} {settings : Settings} {frontEnd : FrontEnd}
    {spillDirectory : String} {draw : Nat → Nat} {start now : Session} {before : List Move}
    (hs : start = opened context address settings frontEnd spillDirectory draw)
    (hb : ∀ move ∈ before, move.AddsNoWaiter) (hn : now = start.run before) (path : Namespace)
    (code : String) {job : Job} (hw : job.waiter = none) (hj : job.AddsNoWaiter) :
    (now.send path code job).2 = (now.call path code job).2.map (·.1) ∧
      (∀ error, (now.call path code job).2 = .error error →
        (now.send path code job).1 = (now.call path code job).1) ∧
      ∀ sent waiter, (now.call path code job).2 = .ok (sent, waiter) →
        ∀ after : List Move, (∀ move ∈ after, move.AddsNoWaiter) →
          ((now.send path code job).1.run after).LooksLike waiter
              ((now.call path code job).1.run after) ∧
            (∀ move, move.AddsNoWaiter → ((now.send path code job).1.run after).yields move
              = ((now.call path code job).1.run after).yields move) ∧
            (∃ stages, (now.call path code job).1.Undergoes sent.id waiter
              ((now.call path code job).1.run after) stages) ∧
            ∀ stages, (now.call path code job).1.Undergoes sent.id waiter
              ((now.call path code job).1.run after) stages →
              ((now.call path code job).1.run after).IsAnswered sent.id job waiter stages := by
  have hnow : now.Numbered none := by
    rw [hn, hs]
    exact numbered_run (numbered_opened context address settings frontEnd spillDirectory draw) hb
  have hsend := hnow.send_eq path code hw
  refine ⟨congrArg Prod.snd hsend, fun error he => ?_, fun sent waiter hok after ha => ?_⟩
  · have hcalled := hnow.call path code hj
    have hticket : (now.call path code job).1.nextTicket = now.nextTicket := by
      have hnext := nextTicket_call now path code job
      rw [← Prod.eta (now.call path code job), he] at hnext
      exact hnext
    rw [hsend, ← hticket]
    exact hcalled.renumber_next
  · obtain ⟨rfl, hleaving, hlt, registered, hsuccess, hfailure, hstands⟩ :=
      hnow.call_leaving hj (Prod.ext rfl hok)
    have hbeside : Parallel (some now.nextTicket) (now.call path code job).1
        (now.call path code job).1 (now.send path code job).1 :=
      ⟨hleaving, congrArg Prod.fst hsend, fun _ _ => ⟨[], .begun⟩⟩
    have hafter := hbeside.run ha
    refine ⟨?_, fun move hm => hafter.yields hm, hafter.undergone _ _, fun stages hu => ?_⟩
    · rw [hafter.same]
      exact looksLike_renumber _ _
    · obtain ⟨hadds, -, hnow⟩ := hu.stands hleaving.adds hstands hlt
      exact isAnswered_of_stands hadds.roster.apart hsuccess hfailure hnow

/-- A session in which one caller waits already. -/
def attendedStart : Session :=
  (opened "main" "localhost:1" {} .editor "/tmp" fun drawn => 0xA0 + drawn).run
    [.eval .root "first()"]

/-- A job that reports its outcome. -/
def reportingJob : Job :=
  { JobOf.plain "a" "buffer" "repl" with onSuccess := .report, onFailure := .report }

/-- A third caller comes, and then two responses to the request of the second one. -/
def lateMoves : List Move :=
  [.eval .root "third()",
    .receive (Utf8.encode "(response-done \"000000a1\" 2)".toList),
    .receive (Utf8.encode "(response-done \"000000a1\" 3)".toList)]

/-- The second caller does not wait for the response. It comes all the same, the callback
reports it once, with the caller and without it. -/
theorem call_eq_send_lateMoves :
    (∀ move ∈ lateMoves, move.AddsNoWaiter) ∧
      (attendedStart.call .root "1 + 1" reportingJob).2
        = .ok (⟨"000000a1", "(ns = [:Main], reqid = \"000000a1\", code = \"1 + 1\")\n"⟩, 1) ∧
      (((attendedStart.call .root "1 + 1" reportingJob).1.run (lateMoves.take 1)).replyTo
        1).isSome = false ∧
      (((attendedStart.call .root "1 + 1" reportingJob).1.run lateMoves).replyTo
        1).isSome = true ∧
      ((attendedStart.send .root "1 + 1" reportingJob).1.run lateMoves).router.log.countP
        (fun event => match event with
          | .succeeded label _ => label == "a"
          | _ => false) = 1 ∧
      ((attendedStart.send .root "1 + 1" reportingJob).1.run lateMoves).LooksLike 1
        ((attendedStart.call .root "1 + 1" reportingJob).1.run lateMoves) := by
  have hbefore : ∀ move ∈ [Move.eval .root "first()"], move.AddsNoWaiter := by
    simp [Move.AddsNoWaiter]
  have hpassive : reportingJob.IsPassive := ⟨rfl, rfl⟩
  have hlate : ∀ move ∈ lateMoves, move.AddsNoWaiter := by
    simp [lateMoves, Move.AddsNoWaiter]
  have hcalled : (attendedStart.call .root "1 + 1" reportingJob).2
      = .ok (⟨"000000a1", "(ns = [:Main], reqid = \"000000a1\", code = \"1 + 1\")\n"⟩, 1) := by
    have hok : (attendedStart.call .root "1 + 1" reportingJob).2.toOption
        = some (⟨"000000a1", "(ns = [:Main], reqid = \"000000a1\", code = \"1 + 1\")\n"⟩, 1) := by
      decide +kernel
    cases hc : (attendedStart.call .root "1 + 1" reportingJob).2 with
    | error error =>
      rw [hc] at hok
      cases hok
    | ok sent =>
      rw [hc] at hok
      exact congrArg Except.ok (Option.some.inj hok)
  have hsame := (call_eq_send rfl hbefore rfl .root "1 + 1" rfl hpassive.addsNoWaiter).2.2 _ _
    hcalled lateMoves hlate
  exact ⟨hlate, hcalled, by decide +kernel, by decide +kernel, by decide +kernel, hsame.1⟩

end ReplLink.Session
