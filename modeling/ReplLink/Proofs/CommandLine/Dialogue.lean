import ReplLink.CommandLine.Conversation
import ReplLink.Proofs.Routing.Answers

/-!
# Dialogues

A dialogue is what happens in a conversation, one thing after the other: lines of code and
queries for names are sent, responses arrive, time runs out, and outcomes are printed. All
of a dialogue is given with its last entry in front. From the entries alone it follows what
is waited for and what has been heard of it, and so what may come next. In a coherent
dialogue every printed reply is the one to the line of code before it.
-/

namespace ReplLink.CommandLine

open ReplLink.Routing

section Definitions

/-- One thing that happens in a conversation. -/
inductive Entry where
  /-- Code is sent. The file is what lies where the code of its request is spilled to. -/
  | evaluated (code : String) (sent : Sent) (file : Option FileEntry)
  /-- A query for the names of a list is sent. -/
  | asked (list : NameList) (sent : Sent) (file : Option FileEntry)
  /-- A response arrives. -/
  | arrived (answer : Response)
  /-- The time of what is waited for is up. -/
  | timeUp
  /-- The reply to code is printed, or that there is none. -/
  | shown (reply : Option Outcome)
  /-- It is printed what has become of the names of a list. -/
  | named (list : NameList) (result : Except SessionError (List String))
  /-- A note is printed. -/
  | noted (text : String)

/-- A request that is waited for. -/
structure Pending where
  /-- The list whose names it asks for, if it does. -/
  list : Option NameList
  /-- Its line. -/
  sent : Sent
  /-- What has been heard of it. -/
  reply : Option Outcome

namespace Entry

/-- The code that is sent. -/
def code? : Entry → Option String
  | evaluated code _ _ => some code
  | _ => none

/-- The line that is written. -/
def sent? : Entry → Option Sent
  | evaluated _ sent _ => some sent
  | asked _ sent _ => some sent
  | _ => none

/-- The response that arrives. -/
def answer? : Entry → Option Response
  | arrived answer => some answer
  | _ => none

/-- The reply that is printed. -/
def reply? : Entry → Option (Option Outcome)
  | shown reply => some reply
  | _ => none

/-- What is waited for once this has happened. -/
def pending? : Entry → Option Pending
  | evaluated _ sent _ => some ⟨none, sent, none⟩
  | asked list sent _ => some ⟨some list, sent, none⟩
  | _ => none

/-- Nothing is written and nothing is printed. -/
def IsQuiet : Entry → Prop
  | arrived _ => True
  | timeUp => True
  | _ => False

/-- What is printed. -/
def output? (json : Bool) : Entry → Option Output
  | shown reply => some (.line (replyText json reply))
  | named list result => some (Conversation.renderNames list result)
  | noted text => some (.note text)
  | _ => none

end Entry

/-- What is waited for, with what has been heard of it. -/
def hand : List Entry → Option Pending
  | [] => none
  | .evaluated _ sent _ :: _ => some ⟨none, sent, none⟩
  | .asked list sent _ :: _ => some ⟨some list, sent, none⟩
  | .arrived answer :: earlier =>
    (hand earlier).map fun pending =>
      { pending with reply := hear pending.sent.id pending.reply answer }
  | .shown _ :: _ => none
  | .named _ _ :: _ => none
  | .timeUp :: earlier => hand earlier
  | .noted _ :: earlier => hand earlier

/-- The ids of the requests to which no response has arrived. -/
def unanswered : List Entry → List String
  | [] => []
  | .evaluated _ sent _ :: earlier => sent.id :: unanswered earlier
  | .asked _ sent _ :: earlier => sent.id :: unanswered earlier
  | .arrived answer :: earlier => (unanswered earlier).filter (· ≠ answer.requestId)
  | _ :: earlier => unanswered earlier

/-- The names of a list, once a query has brought them. -/
def known (list : NameList) : List Entry → Option (List String)
  | [] => none
  | .named other (.ok names) :: earlier => if other = list then some names else known list earlier
  | _ :: earlier => known list earlier

/-- What may come next in a dialogue. -/
def MayFollow (earlier : List Entry) : Entry → Prop
  | .evaluated _ sent _ => hand earlier = none ∧ sent.id ∉ unanswered earlier
  | .asked list sent _ =>
    hand earlier = none ∧ sent.id ∉ unanswered earlier ∧ known list earlier = none
  | .shown reply => (∃ sent, hand earlier = some ⟨none, sent, reply⟩) ∧
    (reply = none → ∃ before, earlier = .timeUp :: before)
  | .named list result =>
    (∃ names, hand earlier = none ∧ known list earlier = some names ∧ result = .ok names) ∨
    ∃ sent reply, hand earlier = some ⟨some list, sent, reply⟩ ∧
      result = Session.namesOf list reply ∧
      (reply = none → ∃ before, earlier = .timeUp :: before)
  | .noted _ => hand earlier = none
  | .arrived _ => True
  | .timeUp => True

/-- Everything in a dialogue comes where it may. -/
def Coherent : List Entry → Prop
  | [] => True
  | entry :: earlier => MayFollow earlier entry ∧ Coherent earlier

end Definitions

section Pending

variable {entries earlier later between : List Entry} {pending : Pending}

/-- A request that is sent is waited for and without an answer. -/
theorem hand_cons_of_pending (earlier : List Entry) {entry : Entry}
    (h : entry.pending? = some pending) :
    hand (entry :: earlier) = some pending ∧
      unanswered (entry :: earlier) = pending.sent.id :: unanswered earlier ∧
      entry.sent? = some pending.sent ∧
      ∀ list, known list (entry :: earlier) = known list earlier := by
  cases entry with
  | evaluated code sent file =>
    obtain rfl := Option.some.inj h
    exact ⟨rfl, rfl, rfl, fun list => rfl⟩
  | asked list sent file =>
    obtain rfl := Option.some.inj h
    exact ⟨rfl, rfl, rfl, fun list => rfl⟩
  | _ => exact absurd h (by simp [Entry.pending?])

/-- As many replies have been printed as there were lines of code, but for the one that is
waited for. -/
theorem Coherent.counted (h : Coherent entries) :
    (entries.filterMap Entry.code?).length
      = (entries.filterMap Entry.reply?).length
        + if (hand entries).any (·.list.isNone) then 1 else 0 := by
  induction entries with
  | nil => rfl
  | cons entry earlier ih =>
    obtain ⟨hf, hc⟩ := h
    have hcount := ih hc
    cases entry with
    | evaluated code sent file =>
      rw [hf.1] at hcount
      simpa [List.filterMap_cons, Entry.code?, Entry.reply?, hand] using hcount
    | asked list sent file =>
      rw [hf.1] at hcount
      simpa [List.filterMap_cons, Entry.code?, Entry.reply?, hand] using hcount
    | arrived answer =>
      have hsame : (hand (.arrived answer :: earlier)).any (·.list.isNone)
          = (hand earlier).any (·.list.isNone) := by
        rw [hand, Option.any_map]
      rw [hsame]
      exact hcount
    | timeUp => exact hcount
    | shown reply =>
      obtain ⟨⟨sent, hs⟩, -⟩ := hf
      rw [hs] at hcount
      simpa [List.filterMap_cons, Entry.code?, Entry.reply?, hand] using hcount
    | named list result =>
      rcases hf with ⟨names, hn, -⟩ | ⟨sent, reply, hs, -⟩
      · rw [hn] at hcount
        simpa [List.filterMap_cons, Entry.code?, Entry.reply?, hand] using hcount
      · rw [hs] at hcount
        simpa [List.filterMap_cons, Entry.code?, Entry.reply?, hand] using hcount
    | noted text => exact hcount

end Pending

section Replies

variable {entries earlier : List Entry}

end Replies

end ReplLink.CommandLine
