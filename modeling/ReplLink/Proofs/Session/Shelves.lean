import Mathlib.Data.List.Basic
import ReplLink.Proofs.Routing.Answers
import ReplLink.Session.Calls

/-!
# A record of what happens to the lists of names

A record holds one deed after the other, the last one first. It tells of each list who
stands in line for it, which query is under way and what that query has heard, and which
names are known. What may happen next depends on nothing else: a query is sent by the
first one in line, for a list that is free and empty, and ends with the first response to
it. From that alone it follows that names are fetched once, and that an answer that comes
too late fills no list.
-/

namespace ReplLink.Session

open ReplLink.Routing

section Definitions

/-- What happens to the lists of names, and to the lines and responses of their queries. -/
inductive Deed where
  /-- A caller comes and stands in the line of a list. -/
  | came (list : NameList) (ticket : Nat)
  /-- A caller writes a query for the names of a list. -/
  | asked (list : NameList) (ticket : Nat) (sent : Sent)
  /-- The query of a caller ends, with what there is by then. -/
  | ended (list : NameList) (ticket : Nat) (reply : Option Outcome)
  /-- A caller gets names that are known. -/
  | given (list : NameList) (ticket : Nat) (names : List String)
  /-- A caller cannot send its query. -/
  | refused (list : NameList) (ticket : Nat) (error : SessionError)
  /-- Somebody who closes the session empties a list. -/
  | emptied (list : NameList)
  /-- Somebody writes a line that is no such query. -/
  | wrote (sent : Sent)
  /-- A response arrives. -/
  | arrived (answer : Response)

namespace Deed

/-- The line that is written. -/
def line? : Deed → Option Sent
  | asked _ _ sent => some sent
  | wrote sent => some sent
  | _ => none

/-- The query for a list that is written. -/
def query? (list : NameList) : Deed → Option Sent
  | asked other _ sent => if other = list then some sent else none
  | _ => none

/-- What a caller of a list gets. -/
def result? (list : NameList) : Deed → Option (Nat × Except SessionError (List String))
  | ended other ticket reply =>
    if other = list then some (ticket, namesOf list reply) else none
  | given other ticket names => if other = list then some (ticket, .ok names) else none
  | refused other ticket error => if other = list then some (ticket, .error error) else none
  | _ => none

/-- What a query for a list has brought when it ends. -/
def outcome? (list : NameList) : Deed → Option (Except SessionError (List String))
  | ended other _ reply => if other = list then some (namesOf list reply) else none
  | _ => none

/-- The list that a deed is about. -/
def list? : Deed → Option NameList
  | came list _ => some list
  | asked list _ _ => some list
  | ended list _ _ => some list
  | given list _ _ => some list
  | refused list _ _ => some list
  | emptied list => some list
  | _ => none

end Deed

/-- A query under way. -/
structure Inquiry where
  /-- The caller who asked. -/
  ticket : Nat
  /-- The line. -/
  sent : Sent
  /-- The outcome that the first response to it has told. -/
  reply : Option Outcome

/-- The query after a response has arrived. -/
def Inquiry.hears (query : Inquiry) (answer : Response) : Inquiry :=
  { query with reply := hear query.sent.id query.reply answer }

/-- The query for a list that is under way. -/
def underway (list : NameList) : List Deed → Option Inquiry
  | [] => none
  | .asked other ticket sent :: earlier =>
    if other = list then some ⟨ticket, sent, none⟩ else underway list earlier
  | .ended other _ _ :: earlier => if other = list then none else underway list earlier
  | .arrived answer :: earlier => (underway list earlier).map (·.hears answer)
  | _ :: earlier => underway list earlier

/-- The names of a list that are known. -/
def content (list : NameList) : List Deed → Option (List String)
  | [] => none
  | .ended other _ reply :: earlier =>
    if other = list then
      match namesOf list reply with
      | .ok names => some names
      | .error _ => content list earlier
    else content list earlier
  | .emptied other :: earlier => if other = list then none else content list earlier
  | _ :: earlier => content list earlier

/-- Those who stand in line for a list, the first one first. -/
def lined (list : NameList) : List Deed → List Nat
  | [] => []
  | .came other ticket :: earlier =>
    if other = list then lined list earlier ++ [ticket] else lined list earlier
  | .asked other _ _ :: earlier =>
    if other = list then (lined list earlier).tail else lined list earlier
  | .given other _ _ :: earlier =>
    if other = list then (lined list earlier).tail else lined list earlier
  | .refused other _ _ :: earlier =>
    if other = list then (lined list earlier).tail else lined list earlier
  | _ :: earlier => lined list earlier

/-- The ids of the lines to which no response has arrived. -/
def unanswered : List Deed → List String
  | [] => []
  | .asked _ _ sent :: earlier => sent.id :: unanswered earlier
  | .wrote sent :: earlier => sent.id :: unanswered earlier
  | .arrived answer :: earlier => (unanswered earlier).filter (· ≠ answer.requestId)
  | _ :: earlier => unanswered earlier

/-- The ids of the queries whose callers have given up and to which no response has
arrived since. -/
def lost : List Deed → List String
  | [] => []
  | .ended list _ none :: earlier =>
    (underway list earlier).toList.map (·.sent.id) ++ lost earlier
  | .arrived answer :: earlier => (lost earlier).filter (· ≠ answer.requestId)
  | _ :: earlier => lost earlier

/-- What has to be so for a deed to come next. -/
def MayFollow (earlier : List Deed) : Deed → Prop
  | .came _ _ => True
  | .asked list ticket sent =>
    ((lined list earlier).head? = some ticket ∧ underway list earlier = none ∧
      content list earlier = none ∧ .emptied list ∉ earlier) ∧ sent.id ∉ unanswered earlier
  | .ended list ticket reply => ∃ sent, underway list earlier = some ⟨ticket, sent, reply⟩
  | .given list ticket names =>
    (lined list earlier).head? = some ticket ∧ underway list earlier = none ∧
      content list earlier = some names
  | .refused list ticket _ =>
    (lined list earlier).head? = some ticket ∧ underway list earlier = none ∧
      content list earlier = none
  | .emptied list => underway list earlier = none
  | .wrote sent => sent.id ∉ unanswered earlier
  | .arrived _ => True

/-- Each deed comes where it may. -/
def Coherent : List Deed → Prop
  | [] => True
  | deed :: earlier => MayFollow earlier deed ∧ Coherent earlier

/-- The queries for a list that were written. -/
def queries (list : NameList) (deeds : List Deed) : List Sent := deeds.filterMap (·.query? list)

/-- What callers of a list have got. -/
def results (list : NameList) (deeds : List Deed) :
    List (Nat × Except SessionError (List String)) :=
  deeds.filterMap (·.result? list)

/-- What queries for a list have brought. -/
def outcomes (list : NameList) (deeds : List Deed) : List (Except SessionError (List String)) :=
  deeds.filterMap (·.outcome? list)

/-- The names that queries for a list have brought. -/
def brought (list : NameList) (deeds : List Deed) : List (List String) :=
  (outcomes list deeds).filterMap Except.toOption

end Definitions

section Records

theorem filterMap_cons_toList {α β : Type} (f : α → Option β) (head : α) (rest : List α) :
    (head :: rest).filterMap f = (f head).toList ++ rest.filterMap f := by
  rw [List.filterMap_cons]
  cases f head <;> rfl

theorem results_cons (list : NameList) (deed : Deed) (earlier : List Deed) :
    results list (deed :: earlier) = (deed.result? list).toList ++ results list earlier :=
  filterMap_cons_toList _ deed earlier

theorem outcomes_cons (list : NameList) (deed : Deed) (earlier : List Deed) :
    outcomes list (deed :: earlier) = (deed.outcome? list).toList ++ outcomes list earlier :=
  filterMap_cons_toList _ deed earlier

theorem brought_cons (list : NameList) (deed : Deed) (earlier : List Deed) :
    brought list (deed :: earlier)
      = ((deed.outcome? list).bind Except.toOption).toList ++ brought list earlier := by
  rw [brought, outcomes_cons, List.filterMap_append, ← brought]
  cases deed.outcome? list with
  | none => rfl
  | some result => cases result <;> rfl

/-- A caller of a list gets something when its query ends, when names are known, or when
its query cannot be sent. -/
theorem Deed.cases_of_result {deed : Deed} {list : NameList} {ticket : Nat}
    {result : Except SessionError (List String)} (h : deed.result? list = some (ticket, result)) :
    (∃ reply, deed = .ended list ticket reply ∧ result = namesOf list reply) ∨
      (∃ names, deed = .given list ticket names ∧ result = .ok names) ∨
        ∃ error, deed = .refused list ticket error ∧ result = .error error := by
  cases deed with
  | ended other caller reply =>
    rw [result?] at h
    split at h
    · next ho =>
      obtain ⟨rfl, rfl⟩ := Prod.mk.inj (Option.some.inj h)
      exact .inl ⟨reply, by rw [ho], rfl⟩
    · exact absurd h (by simp)
  | given other caller names =>
    rw [result?] at h
    split at h
    · next ho =>
      obtain ⟨rfl, rfl⟩ := Prod.mk.inj (Option.some.inj h)
      exact .inr (.inl ⟨names, by rw [ho], rfl⟩)
    · exact absurd h (by simp)
  | refused other caller error =>
    rw [result?] at h
    split at h
    · next ho =>
      obtain ⟨rfl, rfl⟩ := Prod.mk.inj (Option.some.inj h)
      exact .inr (.inr ⟨error, by rw [ho], rfl⟩)
    · exact absurd h (by simp)
  | _ => exact absurd h (by simp [result?])

/-- A deed that gives something to a caller of a list is about this list. No line is written
and no list is emptied by it, and it leaves alone what is unanswered. -/
theorem Deed.of_result (deed : Deed) {list : NameList} {ticket : Nat}
    {result : Except SessionError (List String)} (h : deed.result? list = some (ticket, result)) :
    deed.list? = some list ∧ deed.line? = none ∧
      (∀ deeds, unanswered (deed :: deeds) = unanswered deeds) ∧
      ∀ other, .emptied other ≠ deed := by
  rcases Deed.cases_of_result h with ⟨reply, rfl, -⟩ | ⟨names, rfl, -⟩ | ⟨error, rfl, -⟩ <;>
    exact ⟨rfl, rfl, fun _ => rfl, fun _ he => nomatch he⟩

/-- What concerns another list leaves the query under way alone, unless a response
arrives. -/
theorem underway_cons_of_ne {deed : Deed} {list other : NameList} {earlier : List Deed}
    (hd : deed.list? = some other) (h : list ≠ other) :
    underway list (deed :: earlier) = underway list earlier := by
  cases deed with
  | asked found ticket sent =>
    obtain rfl := Option.some.inj hd
    exact if_neg h.symm
  | ended found ticket reply =>
    obtain rfl := Option.some.inj hd
    exact if_neg h.symm
  | arrived answer => exact absurd hd (by simp [Deed.list?])
  | _ => rfl

end Records

section Past

variable {list : NameList} {deeds earlier : List Deed} {deed : Deed}

theorem Coherent.of_suffix (h : Coherent deeds) (hs : earlier <:+ deeds) : Coherent earlier := by
  induction deeds with
  | nil =>
    rw [List.suffix_nil.mp hs]
    exact h
  | cons head rest ih =>
    rcases List.suffix_cons_iff.mp hs with rfl | hs
    · exact h
    · exact ih h.2 hs

/-- A list is as it was before anybody asked, or one query has brought names. Then none
has been under way since, and these are known until the list is emptied. -/
theorem Coherent.content_cases (h : Coherent deeds) (list : NameList) :
    (brought list deeds = [] ∧ content list deeds = none) ∨
      ∃ names, brought list deeds = [names] ∧ underway list deeds = none ∧
        (content list deeds = some names ∨
          content list deeds = none ∧ .emptied list ∈ deeds) := by
  induction deeds with
  | nil => exact .inl ⟨rfl, rfl⟩
  | cons deed earlier ih =>
    obtain ⟨hmay, hbefore⟩ := h
    have hpast := ih hbefore
    rw [brought_cons]
    cases deed with
    | asked other ticket sent =>
      by_cases ho : other = list
      · subst ho
        obtain ⟨⟨-, -, hcontent, hkept⟩, -⟩ := hmay
        rcases hpast with hnone | ⟨names, -, -, hknown | ⟨-, hemptied⟩⟩
        · exact .inl hnone
        · exact absurd (hcontent.symm.trans hknown) (by simp)
        · exact absurd hemptied hkept
      · simpa [Deed.outcome?, content, underway, ho] using hpast
    | ended other ticket reply =>
      by_cases ho : other = list
      · subst ho
        obtain ⟨sent, hsent⟩ := hmay
        rcases hpast with ⟨hbrought, hcontent⟩ | ⟨names, -, hfree, -⟩
        · cases hr : namesOf other reply with
          | error error =>
            exact .inl (by simp [Deed.outcome?, content, hr, hbrought, hcontent,
              Except.toOption])
          | ok names =>
            exact .inr ⟨names, by simp [Deed.outcome?, content, underway, hr, hbrought,
              Except.toOption]⟩
        · exact absurd (hsent.symm.trans hfree) (by simp)
      · simpa [Deed.outcome?, content, underway, ho] using hpast
    | emptied other =>
      by_cases ho : other = list
      · subst ho
        rcases hpast with ⟨hbrought, -⟩ | ⟨names, hbrought, hfree, -⟩
        · exact .inl ⟨hbrought, by simp [content]⟩
        · exact .inr ⟨names, hbrought, hfree, .inr (by simp [content])⟩
      · simpa [Deed.outcome?, content, underway, ho, Ne.symm ho] using hpast
    | _ => simpa [Deed.outcome?, content, underway] using hpast

/-- Where names are known, no query is under way. -/
theorem Coherent.underway_of_content (h : Coherent deeds) {names : List String}
    (hc : content list deeds = some names) : underway list deeds = none := by
  rcases h.content_cases list with ⟨-, hnone⟩ | ⟨-, -, hfree, -⟩
  · exact absurd (hc.symm.trans hnone) (by simp)
  · exact hfree

end Past

section Stragglers

/-- Queries under way that have heard nothing have ids of their own, which lost queries
do not have. -/
structure HasOwnIds (deeds : List Deed) : Prop where
  /-- Nothing has arrived for lost queries. -/
  lost : ∀ id ∈ lost deeds, id ∈ unanswered deeds
  /-- Nothing has arrived for such a query, and it is not lost. -/
  pending : ∀ list query, underway list deeds = some query → query.reply = none →
    query.sent.id ∈ unanswered deeds ∧ query.sent.id ∉ Session.lost deeds
  /-- The two lists have queries with different ids. -/
  apart : ∀ list other query second, underway list deeds = some query →
    underway other deeds = some second → query.reply = none → second.reply = none →
    query.sent.id = second.sent.id → list = other

variable {earlier : List Deed} {list other : NameList} {ticket : Nat} {sent : Sent}
  {reply : Option Outcome} {query : Inquiry} {answer : Response}

/-- When a caller has just asked, its query is under way, or one for the other list is. -/
theorem cases_of_underway_asked
    (h : underway other (.asked list ticket sent :: earlier) = some query) :
    (list = other ∧ query.sent = sent) ∨
      (list ≠ other ∧ underway other earlier = some query) := by
  rw [underway] at h
  split at h
  · next he => exact .inl ⟨he, (Option.some.inj h) ▸ rfl⟩
  · next hne => exact .inr ⟨hne, h⟩

/-- When a query has just ended, only one for the other list can be under way. -/
theorem underway_of_ended (h : underway other (.ended list ticket reply :: earlier) = some query) :
    list ≠ other ∧ underway other earlier = some query := by
  rw [underway] at h
  split at h
  · exact absurd h (by simp)
  · next hne => exact ⟨hne, h⟩

/-- A query that has heard nothing after a response has had none before, and the response is
none to it. -/
theorem underway_of_arrived (h : underway list (.arrived answer :: earlier) = some query)
    (hr : query.reply = none) :
    underway list earlier = some query ∧ query.sent.id ≠ answer.requestId := by
  obtain ⟨before, hb, rfl⟩ := Option.map_eq_some_iff.mp h
  obtain ⟨hnone, hne⟩ := ne_of_hear_eq_none hr
  have hsame : before.hears answer = before := by
    rw [Inquiry.hears, hear_of_ne hne.symm]
  rw [hsame]
  exact ⟨hb, hne⟩

/-- What is lost when a query ends was lost before, or it is this query without a reply. -/
theorem cases_of_mem_lost_ended (hsent : underway list earlier = some ⟨ticket, sent, reply⟩)
    {id : String} (h : id ∈ lost (.ended list ticket reply :: earlier)) :
    id ∈ lost earlier ∨ reply = none ∧ id = sent.id := by
  cases reply with
  | some outcome => exact .inl h
  | none =>
    rw [lost, hsent] at h
    rcases List.mem_append.mp h with h | h
    · exact .inr ⟨rfl, List.mem_singleton.mp h⟩
    · exact .inl h

/-- A new query has an id under which nothing is waited for. -/
theorem HasOwnIds.asked (h : HasOwnIds earlier) (hfresh : sent.id ∉ unanswered earlier) :
    HasOwnIds (.asked list ticket sent :: earlier) where
  lost := fun id hm => List.mem_cons_of_mem _ (h.lost id hm)
  pending := by
    intro other query hq hr
    rcases cases_of_underway_asked hq with ⟨-, hsent⟩ | ⟨-, hq⟩
    · rw [hsent]
      exact ⟨List.mem_cons_self, fun hm => hfresh (h.lost _ hm)⟩
    · obtain ⟨hu, hn⟩ := h.pending other query hq hr
      exact ⟨List.mem_cons_of_mem _ hu, hn⟩
  apart := by
    intro first second query later hq hl hr hs he
    rcases cases_of_underway_asked hq with ⟨hf, hsent⟩ | ⟨-, hq⟩
    · rcases cases_of_underway_asked hl with ⟨hsec, -⟩ | ⟨-, hl⟩
      · exact hf.symm.trans hsec
      · exact absurd (h.pending second later hl hs).1 (by rwa [← he, hsent])
    · rcases cases_of_underway_asked hl with ⟨-, hsent⟩ | ⟨-, hl⟩
      · exact absurd (h.pending first query hq hr).1 (by rwa [he, hsent])
      · exact h.apart first second query later hq hl hr hs he

/-- A query that ends without a reply is lost from then on, and it is none under way. -/
theorem HasOwnIds.ended (h : HasOwnIds earlier)
    (hsent : underway list earlier = some ⟨ticket, sent, reply⟩) :
    HasOwnIds (.ended list ticket reply :: earlier) where
  lost := by
    intro id hm
    rcases cases_of_mem_lost_ended hsent hm with hm | ⟨rfl, rfl⟩
    · exact h.lost id hm
    · exact (h.pending list _ hsent rfl).1
  pending := by
    intro other query hq hr
    obtain ⟨hne, hbefore⟩ := underway_of_ended hq
    obtain ⟨hu, hn⟩ := h.pending other query hbefore hr
    refine ⟨hu, fun hm => ?_⟩
    rcases cases_of_mem_lost_ended hsent hm with hm | ⟨rfl, he⟩
    · exact hn hm
    · exact hne (h.apart list other _ query hsent hbefore rfl hr he.symm)
  apart := fun first second query later hq hl =>
    h.apart first second query later (underway_of_ended hq).2 (underway_of_ended hl).2

/-- Another line has an id of its own. -/
theorem HasOwnIds.wrote (h : HasOwnIds earlier) : HasOwnIds (.wrote sent :: earlier) where
  lost := fun id hm => List.mem_cons_of_mem _ (h.lost id hm)
  pending := by
    intro list query hq hr
    obtain ⟨hu, hn⟩ := h.pending list query hq hr
    exact ⟨List.mem_cons_of_mem _ hu, hn⟩
  apart := h.apart

/-- A response takes its id out of what is unanswered and out of what is lost. -/
theorem HasOwnIds.arrived (h : HasOwnIds earlier) : HasOwnIds (.arrived answer :: earlier) where
  lost := by
    intro id hm
    obtain ⟨hm, hne⟩ := List.mem_filter.mp hm
    exact List.mem_filter.mpr ⟨h.lost id hm, hne⟩
  pending := by
    intro list query hq hr
    obtain ⟨hq, hne⟩ := underway_of_arrived hq hr
    obtain ⟨hu, hn⟩ := h.pending list query hq hr
    exact ⟨List.mem_filter.mpr ⟨hu, by simpa using hne⟩, fun hm => hn (List.mem_filter.mp hm).1⟩
  apart := fun list other query second hq hs hr ht =>
    h.apart list other query second (underway_of_arrived hq hr).1 (underway_of_arrived hs ht).1
      hr ht

end Stragglers

end ReplLink.Session
