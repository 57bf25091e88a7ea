import ReplLink.Proofs.Routing.Settlement
import ReplLink.Proofs.Stream.Chunks

/-!
# Settling many jobs

A row of responses settles the jobs that they reach: each job once, by the
first response with its id, in the order of these responses. `settlements` says
so without a router, and routing what a stream hands out comes to just that, as
long as no callback gives commands. Anything else in the stream leaves no trace
but lines in the log.
-/

namespace ReplLink

open ReplLink.Routing ReplLink.Stream

namespace Response

/-- The first response with each id. -/
def firsts : List Response → List Response
  | [] => []
  | answer :: rest => answer :: (firsts rest).filter (·.requestId ≠ answer.requestId)

theorem firsts_sublist (answers : List Response) : (firsts answers).Sublist answers := by
  induction answers with
  | nil => exact List.Sublist.refl []
  | cons answer rest ih => exact (List.filter_sublist.trans ih).cons_cons answer

/-- The first responses are those that a search for their id finds. -/
theorem mem_firsts_iff {answers : List Response} {answer : Response} :
    answer ∈ firsts answers ↔ answers.find? (·.requestId = answer.requestId) = some answer := by
  induction answers with
  | nil => simp [firsts]
  | cons head rest ih =>
    rw [firsts, List.mem_cons, List.mem_filter, ih]
    by_cases he : head.requestId = answer.requestId
    · rw [List.find?_cons_of_pos (by simpa using he)]
      constructor
      · rintro (rfl | ⟨-, hne⟩)
        · rfl
        · exact absurd he.symm (by simpa using hne)
      · intro h
        exact .inl (Option.some.inj h).symm
    · rw [List.find?_cons_of_neg (by simpa using he)]
      constructor
      · rintro (rfl | ⟨h, -⟩)
        · exact absurd rfl he
        · exact h
      · intro h
        exact .inr ⟨h, by simpa using Ne.symm he⟩

end Response

namespace Routing

/-- The jobs that responses reach, each with the response that settles it. -/
def settlements (roster : Roster) (answers : List Response) : List (Response × Job) :=
  (Response.firsts answers).filterMap fun answer =>
    (roster.heldUnder answer.requestId).map fun job => (answer, job)

/-- The first response takes its job, and the others go on without it. -/
theorem settlements_cons_of_held {roster : Roster} {answer : Response} {job : Job}
    (h : roster.heldUnder answer.requestId = some job) (rest : List Response) :
    settlements roster (answer :: rest)
      = (answer, job) :: settlements (roster.erase answer.requestId) rest := by
  rw [settlements, Response.firsts, List.filterMap_cons_some (by rw [h]; rfl),
    List.filterMap_filter, settlements]
  congr 2
  funext other
  by_cases he : other.requestId = answer.requestId
  · simp [he, Roster.heldUnder_erase_self]
  · simp [he, Roster.heldUnder_erase_of_ne roster he]

/-- A response that reaches no job makes no difference. -/
theorem settlements_cons_of_none {roster : Roster} {answer : Response}
    (h : roster.heldUnder answer.requestId = none) (rest : List Response) :
    settlements roster (answer :: rest) = settlements roster rest := by
  rw [settlements, Response.firsts, List.filterMap_cons_none (by rw [h]; rfl),
    List.filterMap_filter, settlements]
  congr 1
  funext other
  by_cases he : other.requestId = answer.requestId
  · simp [he, h]
  · simp [he]

/-- A settlement is one of a job that waits, by the first response with its
id. -/
theorem mem_settlements {roster : Roster} {answers : List Response} {pair : Response × Job}
    (h : pair ∈ settlements roster answers) :
    pair.1 ∈ Response.firsts answers ∧ roster.heldUnder pair.1.requestId = some pair.2 := by
  obtain ⟨answer, ha, hs⟩ := List.mem_filterMap.mp h
  obtain ⟨job, hj, rfl⟩ := Option.map_eq_some_iff.mp hs
  exact ⟨ha, hj⟩

/-- Two settlements under one id are the same. -/
theorem settlements_unique {roster : Roster} {answers : List Response}
    {pair other : Response × Job} (hp : pair ∈ settlements roster answers)
    (ho : other ∈ settlements roster answers)
    (h : pair.1.requestId = other.1.requestId) : pair = other := by
  obtain ⟨hpf, hpj⟩ := mem_settlements hp
  obtain ⟨hof, hoj⟩ := mem_settlements ho
  have hfirst := Response.mem_firsts_iff.mp hpf
  rw [h, Response.mem_firsts_iff.mp hof] at hfirst
  rw [h, hoj] at hpj
  exact Prod.ext (Option.some.inj hfirst).symm (Option.some.inj hpj).symm

/-- The event is a line about bytes or a response that reached no job. -/
def isStray : Event → Bool
  | .notice (.dropped ..) => true
  | .notice (.unknownResponse _) => true
  | _ => false

/-- The events without the stray ones. -/
def proper (log : List Event) : List Event := log.filter fun event => !isStray event

@[simp] theorem proper_append (first second : List Event) :
    proper (first ++ second) = proper first ++ proper second := List.filter_append ..

theorem proper_shownEvents (frontEnd : FrontEnd) (job : Job) (outcome : Outcome) :
    proper (shownEvents frontEnd job outcome) = shownEvents frontEnd job outcome := by
  refine List.filter_eq_self.mpr fun event he => ?_
  obtain ⟨_, rfl⟩ | ⟨_, rfl⟩ | ⟨_, rfl⟩ := mem_shownEvents he <;> rfl

theorem proper_announce (callback : Callback) (job : Job) (outcome : Outcome) :
    proper (callback.announce job outcome) = callback.announce job outcome := by
  refine List.filter_eq_self.mpr fun event he => ?_
  obtain ⟨_, rfl⟩ | ⟨_, rfl⟩ | rfl | ⟨_, rfl⟩ := mem_announce he <;> rfl

/-- Nothing that belongs to a settlement is stray. -/
theorem proper_settlementEvents (frontEnd : FrontEnd) (answer : Response) (job : Job) :
    proper (settlementEvents frontEnd answer job) = settlementEvents frontEnd answer job := by
  have hpanic : ∀ panic, proper (panicEvents answer.requestId panic)
      = panicEvents answer.requestId panic := by
    intro panic
    cases panic <;> rfl
  have hstop : proper (frontEnd.stop job.origin) = frontEnd.stop job.origin := by
    cases frontEnd <;> rfl
  rw [settlementEvents, proper_append, proper_append, proper_append, proper_shownEvents,
    proper_announce, hpanic, hstop]

/-- What settlements tell the callers who wait, the last word first. -/
def settledWords (settled : List (Response × Job)) : List (Nat × Word) :=
  settled.reverse.flatMap fun pair => wordsOf pair.2 (some pair.1.outcome)

/-- Each word comes from a settlement. -/
theorem mem_settledWords {settled : List (Response × Job)} {waiter : Nat} {word : Word} :
    (waiter, word) ∈ settledWords settled ↔
      ∃ pair ∈ settled, pair.2.waiter = some waiter ∧ word = some pair.1.outcome := by
  have hone (pair : Response × Job) : (waiter, word) ∈ wordsOf pair.2 (some pair.1.outcome) ↔
      pair.2.waiter = some waiter ∧ word = some pair.1.outcome := by
    unfold wordsOf
    cases pair.2.waiter with
    | none => simp
    | some other =>
      rw [List.mem_singleton, Prod.mk.injEq, Option.some.injEq, @eq_comm _ waiter]
  simp only [settledWords, List.mem_flatMap, List.mem_reverse, hone]

/-- What is found first is found behind anything that is added. -/
theorem lookup_append_of_mem {words rest : List (Nat × Word)} {waiter : Nat} {word : Word}
    (h : (waiter, word) ∈ words) (hu : ∀ other, (waiter, other) ∈ words → other = word) :
    (words ++ rest).lookup waiter = some word := by
  induction words with
  | nil => exact absurd h List.not_mem_nil
  | cons head tail ih =>
    obtain ⟨first, told⟩ := head
    rw [List.cons_append, List.lookup_cons]
    by_cases hw : waiter = first
    · rw [hw, beq_self_eq_true]
      exact congrArg some (hu told (hw ▸ List.mem_cons_self))
    · rw [beq_false_of_ne hw]
      have hm : (waiter, word) ∈ tail :=
        (List.mem_cons.mp h).resolve_left fun he => hw (congrArg Prod.fst he)
      exact ih hm fun other ho => hu other (List.mem_cons_of_mem _ ho)

theorem lookup_append_of_not_mem {words rest : List (Nat × Word)} {waiter : Nat}
    (h : ∀ word, (waiter, word) ∉ words) : (words ++ rest).lookup waiter = rest.lookup waiter := by
  induction words with
  | nil => rfl
  | cons head tail ih =>
    obtain ⟨first, told⟩ := head
    have hw : waiter ≠ first := fun he => h told (he ▸ List.mem_cons_self)
    rw [List.cons_append, List.lookup_cons, beq_false_of_ne hw]
    exact ih fun word hm => h word (List.mem_cons_of_mem _ hm)

/-- What has been heard of a request when a response has come: the first response to it
counts. -/
def hear (id : String) (reply : Option Outcome) (answer : Response) : Option Outcome :=
  if reply.isNone ∧ answer.requestId = id then some answer.outcome else reply

theorem hear_of_ne {id : String} {answer : Response} (h : answer.requestId ≠ id)
    (reply : Option Outcome) : hear id reply answer = reply :=
  if_neg fun hboth => h hboth.2

theorem hear_some (id : String) (outcome : Outcome) (answer : Response) :
    hear id (some outcome) answer = some outcome :=
  if_neg fun hboth => absurd hboth.1 (by simp)

/-- Where nothing has been heard yet, the response was to another request. -/
theorem ne_of_hear_eq_none {id : String} {reply : Option Outcome} {answer : Response}
    (h : hear id reply answer = none) : reply = none ∧ id ≠ answer.requestId := by
  unfold hear at h
  split at h
  · exact absurd h (by simp)
  · next hn =>
    subst h
    exact ⟨rfl, fun he => hn ⟨rfl, he.symm⟩⟩

namespace Router

/-- Routes what the stream hands out and counts the responses that reach a
job. -/
def accept (context : String) (state : Router × Nat) : Delivery → Router × Nat
  | .response answer =>
    match state.1.perform (.route answer) with
    | (router, .done) => (router, state.2 + 1)
    | (router, _) => (router, state.2)
  | .violation why consumed =>
    (state.1.note [.notice (.dropped context consumed why.reason)], state.2)

/-- Accepting a response routes it. -/
theorem accept_response (context : String) (state : Router × Nat) (answer : Response) :
    (accept context state (.response answer)).1 = (state.1.perform (.route answer)).1 := by
  rw [accept]
  split
  · next router hr => rw [hr]
  · next router reply _ hr => rw [hr]

/-- Every job that waits has passive callbacks, and no two of them have the same
caller waiting, who has not been told anything yet. -/
structure IsAwaiting (router : Router) : Prop where
  /-- No callback gives commands. -/
  passive : ∀ id job, router.roster.heldUnder id = some job → job.IsPassive
  /-- A caller waits for one job. -/
  apart : ∀ id job other second waiter, router.roster.heldUnder id = some job →
    router.roster.heldUnder other = some second → job.waiter = some waiter →
    second.waiter = some waiter → id = other
  /-- A caller who waits has been told nothing. -/
  untold : ∀ id job waiter, router.roster.heldUnder id = some job → job.waiter = some waiter →
    router.wordFor waiter = none

/-- One router is another one after jobs with passive callbacks were settled,
one after the other. -/
structure Settles (before : Router) (settled : List (Response × Job)) (after : Router) : Prop where
  /-- The same front end is told. -/
  frontEnd : after.frontEnd = before.frontEnd
  /-- What is seen is what belongs to the settlements. -/
  seen : proper after.log = proper before.log
    ++ settled.flatMap fun pair => settlementEvents before.frontEnd pair.1 pair.2
  /-- The ids are freed. -/
  roster : after.roster
    = settled.foldl (fun roster pair => roster.erase pair.1.requestId) before.roster
  /-- The callers who wait are told. -/
  words : after.words = settledWords settled ++ before.words

theorem Settles.refl (router : Router) : router.Settles [] router where
  frontEnd := rfl
  seen := (List.append_nil _).symm
  roster := rfl
  words := rfl

/-- Stray lines in front change nothing. -/
theorem Settles.stray {before after : Router} {settled : List (Response × Job)} {event : Event}
    (hs : isStray event = true) (h : (before.note [event]).Settles settled after) :
    before.Settles settled after where
  frontEnd := h.frontEnd
  seen := by
    have he : proper [event] = [] := List.filter_cons_of_neg (by simp [hs])
    have hlog : proper (before.note [event]).log = proper before.log := by
      rw [note, proper_append, he, List.append_nil]
    rw [h.seen, hlog]
    rfl
  roster := h.roster
  words := h.words

/-- A settlement comes in front. -/
theorem Settles.cons {before after : Router} {answer : Response} {job : Job}
    {settled : List (Response × Job)} (h : (before.settle answer job).Settles settled after) :
    before.Settles ((answer, job) :: settled) after where
  frontEnd := h.frontEnd
  seen := by
    rw [h.seen, settle, proper_append, proper_settlementEvents, List.flatMap_cons,
      List.append_assoc]
  roster := h.roster
  words := by
    rw [h.words, settle, settledWords, settledWords, List.reverse_cons, List.flatMap_append,
      List.flatMap_singleton, List.append_assoc]

/-- The ids of settlements are free, and under the others nothing has changed. -/
theorem Settles.get? {before after : Router} {settled : List (Response × Job)}
    (h : before.Settles settled after) (id : String) :
    after.roster.get? id
      = if id ∈ settled.map (·.1.requestId) then none else before.roster.get? id := by
  rw [h.roster, ← Keyed.get?_foldl_erase, List.foldl_map]

/-- What waits has waited before, under an id that no settlement has. -/
theorem Settles.heldUnder {before after : Router} {settled : List (Response × Job)}
    (h : before.Settles settled after) {id : String} {job : Job}
    (hh : after.roster.heldUnder id = some job) :
    id ∉ settled.map (·.1.requestId) ∧ before.roster.heldUnder id = some job := by
  rw [Roster.heldUnder, h.get?] at hh
  by_cases hm : id ∈ settled.map (·.1.requestId)
  · rw [if_pos hm] at hh
    exact absurd hh (by simp)
  · rw [if_neg hm] at hh
    exact ⟨hm, hh⟩

/-- A caller who waits for a settled job has the outcome. -/
theorem Settles.wordFor {before after : Router} {answers : List Response}
    (h : before.Settles (settlements before.roster answers) after) (hb : before.IsAwaiting)
    {pair : Response × Job} (hp : pair ∈ settlements before.roster answers) {waiter : Nat}
    (hw : pair.2.waiter = some waiter) : after.wordFor waiter = some (some pair.1.outcome) := by
  have hm := mem_settledWords.mpr ⟨pair, hp, hw, rfl⟩
  have hu : ∀ other, (waiter, other) ∈ settledWords (settlements before.roster answers) →
      other = some pair.1.outcome := by
    intro other ho
    obtain ⟨second, hsecond, hsw, rfl⟩ := mem_settledWords.mp ho
    have he := hb.apart _ _ _ _ waiter (mem_settlements hsecond).2 (mem_settlements hp).2 hsw hw
    rw [settlements_unique hsecond hp he]
  rw [Router.wordFor, h.words, lookup_append_of_mem hm hu]

/-- A caller who waits for another job has been told nothing. -/
theorem Settles.wordFor_none {before after : Router} {answers : List Response}
    (h : before.Settles (settlements before.roster answers) after) (hb : before.IsAwaiting)
    {id : String} {job : Job} (hh : before.roster.heldUnder id = some job) {waiter : Nat}
    (hw : job.waiter = some waiter)
    (hn : id ∉ (settlements before.roster answers).map (·.1.requestId)) :
    after.wordFor waiter = none := by
  have hnone : ∀ word, (waiter, word) ∉ settledWords (settlements before.roster answers) := by
    intro word hm
    obtain ⟨pair, hp, hpw, -⟩ := mem_settledWords.mp hm
    have he := hb.apart _ _ _ _ waiter (mem_settlements hp).2 hh hpw hw
    exact hn (List.mem_map.mpr ⟨pair, hp, he⟩)
  rw [Router.wordFor, h.words, lookup_append_of_not_mem hnone]
  exact hb.untold id job waiter hh hw

/-- What the stream hands out settles the jobs that its responses reach, and
these are counted. -/
theorem settles_foldl_accept (context : String) (deliveries : List Delivery) {router : Router}
    (hp : ∀ id job, router.roster.heldUnder id = some job → job.IsPassive) (count : Nat) :
    router.Settles (settlements router.roster (Inbox.responses deliveries))
        (deliveries.foldl (accept context) (router, count)).1 ∧
      (deliveries.foldl (accept context) (router, count)).2
        = count + (settlements router.roster (Inbox.responses deliveries)).length := by
  induction deliveries generalizing router count with
  | nil => exact ⟨Settles.refl router, rfl⟩
  | cons delivery rest ih =>
    rw [List.foldl_cons]
    cases delivery with
    | violation why consumed =>
      obtain ⟨hs, hc⟩ := @ih (router.note [.notice (.dropped context consumed why.reason)]) hp count
      exact ⟨Settles.stray rfl hs, hc⟩
    | response answer =>
      have hr : Inbox.responses (.response answer :: rest) = answer :: Inbox.responses rest := rfl
      rw [hr]
      cases hh : router.roster.heldUnder answer.requestId with
      | none =>
        have ha : accept context (router, count) (.response answer)
            = (router.note [.notice (.unknownResponse answer.requestId)], count) := by
          rw [accept, perform_route_of_none hh]
        obtain ⟨hs, hc⟩ := @ih (router.note [.notice (.unknownResponse answer.requestId)]) hp count
        rw [ha, settlements_cons_of_none hh]
        exact ⟨Settles.stray rfl hs, hc⟩
      | some job =>
        have ha : accept context (router, count) (.response answer)
            = (router.settle answer job, count + 1) := by
          rw [accept, perform_route_of_held hh (hp _ _ hh)]
        have hp' : ∀ id other, (router.settle answer job).roster.heldUnder id = some other →
            other.IsPassive := by
          intro id other ho
          by_cases he : id = answer.requestId
          · rw [he, settle, Roster.heldUnder_erase_self] at ho
            exact absurd ho (by simp)
          · rw [settle, Roster.heldUnder_erase_of_ne _ he] at ho
            exact hp id other ho
        obtain ⟨hs, hc⟩ := ih hp' (count + 1)
        rw [ha, settlements_cons_of_held hh]
        have hroster : (router.settle answer job).roster
            = router.roster.erase answer.requestId := rfl
        refine ⟨Settles.cons hs, ?_⟩
        rw [hc, List.length_cons, hroster]
        omega

/-- Routing a response settles the job that it reaches, if it reaches one. -/
theorem settles_route {router : Router}
    (hp : ∀ id job, router.roster.heldUnder id = some job → job.IsPassive) (answer : Response) :
    router.Settles (settlements router.roster [answer]) (router.perform (.route answer)).1 := by
  have hone := (settles_foldl_accept "" [.response answer] hp 0).1
  rwa [List.foldl_cons, List.foldl_nil, accept_response] at hone

/-- A request that waits goes on waiting unless the response is one to it. -/
theorem heldUnder_route {router : Router} (ha : router.IsAwaiting) {answer : Response} {id : String}
    (hne : id ≠ answer.requestId) {job : Job} (hh : router.roster.heldUnder id = some job) :
    (router.perform (.route answer)).1.roster.heldUnder id = some job := by
  rw [Roster.heldUnder, (settles_route ha.passive answer).get?, if_neg]
  · exact hh
  · intro hm
    obtain ⟨pair, hp, hid⟩ := List.mem_map.mp hm
    have hsame := (Response.firsts_sublist [answer]).subset (mem_settlements hp).1
    exact hne (hid.symm.trans (congrArg (·.requestId) (List.mem_singleton.mp hsame)))

/-- What a caller has heard of the request with an id: nothing while the request waits, and
then its outcome. -/
def HasHeard (router : Router) (id : String) (waiter : Nat) : Option Outcome → Prop
  | none => ∃ job, router.roster.heldUnder id = some job ∧ job.waiter = some waiter
  | some outcome => router.wordFor waiter = some (some outcome)

/-- It depends on the roster and on what callers have been told. -/
theorem HasHeard.congr {router after : Router} {id : String} {waiter : Nat}
    {reply : Option Outcome} (h : router.HasHeard id waiter reply)
    (hr : after.roster = router.roster) (hw : after.words = router.words) :
    after.HasHeard id waiter reply := by
  cases reply with
  | none =>
    obtain ⟨job, hh, hwaits⟩ := h
    exact ⟨job, hr ▸ hh, hwaits⟩
  | some outcome =>
    have hsame : after.wordFor waiter = router.wordFor waiter := by
      rw [wordFor, hw, ← wordFor]
    exact hsame.trans h

/-- That is what the caller has when it stops waiting. -/
theorem HasHeard.word {router : Router} {id : String} {waiter : Nat} {reply : Option Outcome}
    (h : router.HasHeard id waiter reply) (ha : router.IsAwaiting) :
    router.wordFor waiter = reply.map some := by
  cases reply with
  | none =>
    obtain ⟨job, hh, hw⟩ := h
    exact ha.untold id job waiter hh hw
  | some outcome => exact h

/-- A response settles the request that it answers and no other one. -/
theorem HasHeard.route {router : Router} {id : String} {waiter : Nat} {reply : Option Outcome}
    (h : router.HasHeard id waiter reply) (ha : router.IsAwaiting) (answer : Response) :
    (router.perform (.route answer)).1.HasHeard id waiter (hear id reply answer) := by
  have hs := settles_route ha.passive answer
  cases reply with
  | none =>
    obtain ⟨job, hh, hw⟩ := h
    by_cases he : answer.requestId = id
    · have hm : (answer, job) ∈ settlements router.roster [answer] := by
        rw [settlements_cons_of_held (he ▸ hh)]
        exact List.mem_cons_self
      rw [hear, if_pos ⟨rfl, he⟩]
      exact hs.wordFor ha hm hw
    · rw [hear_of_ne he]
      exact ⟨job, heldUnder_route ha (Ne.symm he) hh, hw⟩
  | some outcome =>
    have hnew : ∀ word, (waiter, word) ∉ settledWords (settlements router.roster [answer]) := by
      intro word hm
      obtain ⟨pair, hp, hw, -⟩ := mem_settledWords.mp hm
      have hnone := ha.untold _ _ waiter (mem_settlements hp).2 hw
      exact absurd (Eq.trans (Eq.symm h) hnone) (by simp)
    rw [hear_some]
    change (router.perform (.route answer)).1.wordFor waiter = some (some outcome)
    rw [wordFor, hs.words, lookup_append_of_not_mem hnew]
    exact h

end Router

end Routing

end ReplLink
