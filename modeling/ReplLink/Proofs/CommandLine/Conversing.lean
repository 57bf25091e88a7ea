import ReplLink.Proofs.CommandLine.Script
import ReplLink.Proofs.CommandLine.Waiting

/-!
# A conversation and its dialogue

Of a conversation is seen from outside what comes in, what is printed and which lines are
written. As long as the connection is up, that is what is seen of a coherent dialogue,
whose codes are the codes of the lines that were dealt with.
-/

namespace ReplLink.CommandLine

open ReplLink.Routing ReplLink.Stream ReplLink.Text

section Definitions

/-- What can be seen of a conversation from outside. -/
inductive Seen where
  /-- A response arrives. -/
  | arrived (answer : Response)
  /-- The time of what is waited for is up. -/
  | timeUp
  /-- Something is printed. -/
  | printed (output : Output)
  /-- A line is written. The file is what lies where the code of its request is spilled
  to. -/
  | wrote (sent : Sent) (file : Option FileEntry)

namespace Entry

/-- What is seen of an entry. -/
def seen (json : Bool) : Entry → Seen
  | evaluated _ sent file => .wrote sent file
  | asked _ sent file => .wrote sent file
  | arrived answer => .arrived answer
  | timeUp => .timeUp
  | shown reply => .printed (.line (replyText json reply))
  | named list result => .printed (Conversation.renderNames list result)
  | noted text => .printed (.note text)

/-- Something is printed. -/
def IsPrinted : Entry → Prop
  | shown _ => True
  | named _ _ => True
  | noted _ => True
  | _ => False

/-- A line that is sent carries its code, or the question for the names of its list. -/
def IsCarried (start : Session) : Entry → Prop
  | evaluated code sent file => Session.Carries start.settings start.spillPath code sent file
  | asked list sent file =>
    Session.Carries start.settings start.spillPath (start.settings.question list) sent file
  | _ => True

end Entry

namespace Conversation

/-- What comes in with an input. -/
def incoming (conversation : Conversation) : Input → List Seen
  | .arrived chunk =>
    if conversation.session.connected then
      (Inbox.responses (conversation.session.inbox.receive chunk).1).map .arrived
    else []
  | .timeUp => [.timeUp]
  | _ => []

/-- What is seen while an input is taken: what comes in with it, what is printed then, and
which lines are written. -/
def observe (conversation : Conversation) (input : Input) : List Seen :=
  if conversation.exit.isSome then []
  else
    let after := conversation.step input
    conversation.incoming input
      ++ ((after.printed.drop conversation.printed.length).map .printed
      ++ (after.session.written.drop conversation.session.written.length).map fun sent =>
          .wrote sent (after.session.fileFor sent.id))

/-- What is seen while inputs are taken one after the other. -/
def observeAll : Conversation → List Input → List Seen
  | _, [] => []
  | conversation, input :: rest =>
    conversation.observe input ++ (conversation.step input).observeAll rest

end Conversation

/-- A dialogue is the one of a conversation. -/
structure Records (start : Session) (json : Bool) (entries : List Entry)
    (conversation : Conversation) : Prop where
  /-- Replies are printed in this form. -/
  form : conversation.json = json
  /-- Everything came where it may. -/
  coherent : Coherent entries
  /-- The lines that were sent carry their codes. -/
  carried : ∀ entry ∈ entries, entry.IsCarried start
  /-- What was printed is in the dialogue, -/
  printed : conversation.printed = (entries.filterMap (Entry.output? json)).reverse
  /-- and so are the lines that were written. -/
  written : conversation.session.written = (entries.filterMap Entry.sent?).reverse

/-- A conversation goes on. -/
structure Goes (start : Session) (entries : List Entry) (conversation : Conversation) : Prop where
  /-- It has not ended. -/
  going : conversation.exit = none
  /-- The session agrees with the dialogue, -/
  attends : Attends start entries conversation.session
  /-- and so does what is waited for. -/
  awaits : AwaitsReply entries conversation.session conversation.waiting

/-- A conversation has ended. -/
structure HasEnded (entries : List Entry) (conversation : Conversation) : Prop where
  /-- It has an exit code, -/
  ended : conversation.exit.isSome = true
  /-- and nothing is waited for. -/
  nothing : hand entries = none
  /-- So the conversation does not wait. -/
  idle : conversation.waiting = none

/-- Part of a dialogue is seen as what is printed, and then the lines that are written. -/
def InTurn (json : Bool) (session : Session) (more : List Entry) : Prop :=
  more.reverse.map (Entry.seen json)
    = (more.reverse.filterMap (Entry.output? json)).map .printed
      ++ (more.reverse.filterMap Entry.sent?).map fun sent =>
          .wrote sent (session.fileFor sent.id)

end Definitions

section Entries

variable {start : Session} {json : Bool} {entries more : List Entry}
  {conversation after : Conversation}

/-- One more entry is recorded when what it prints is printed and what it sends is written. -/
theorem Records.cons (h : Records start json entries conversation) {entry : Entry}
    (hf : MayFollow entries entry) (hc : entry.IsCarried start)
    (hj : after.json = conversation.json)
    (hp : after.printed = conversation.printed ++ (entry.output? json).toList)
    (hw : after.session.written = conversation.session.written ++ entry.sent?.toList) :
    Records start json (entry :: entries) after where
  form := hj.trans h.form
  coherent := ⟨hf, h.coherent⟩
  carried := List.forall_mem_cons.mpr ⟨hc, h.carried⟩
  printed := by
    rw [hp, Session.filterMap_cons_toList, List.reverse_append, h.printed]
    cases entry.output? json <;> rfl
  written := by
    rw [hw, Session.filterMap_cons_toList, List.reverse_append, h.written]
    cases entry.sent? <;> rfl

/-- Where nothing is printed or written, all stays as it is. -/
theorem Records.quiet (h : Records start json entries conversation)
    (hq : ∀ entry ∈ more, entry.IsQuiet) (hj : after.json = conversation.json)
    (hp : after.printed = conversation.printed)
    (hw : after.session.written = conversation.session.written) :
    Records start json (more ++ entries) after := by
  induction more with
  | nil =>
    exact ⟨hj.trans h.form, h.coherent, h.carried, hp.trans h.printed, hw.trans h.written⟩
  | cons entry rest ih =>
    obtain ⟨hentry, hrest⟩ := List.forall_mem_cons.mp hq
    have hnext := ih hrest
    cases entry with
    | arrived answer =>
      exact hnext.cons trivial trivial rfl (List.append_nil _).symm (List.append_nil _).symm
    | timeUp =>
      exact hnext.cons trivial trivial rfl (List.append_nil _).symm (List.append_nil _).symm
    | _ => exact absurd hentry id

/-- What is printed is seen as that. -/
theorem seen_of_printed (json : Bool) {front : List Entry}
    (hf : ∀ entry ∈ front, entry.IsPrinted) :
    front.map (Entry.seen json) = (front.filterMap (Entry.output? json)).map .printed ∧
      front.filterMap Entry.sent? = [] := by
  induction front with
  | nil => exact ⟨rfl, rfl⟩
  | cons entry rest ih =>
    obtain ⟨hentry, hrest⟩ := List.forall_mem_cons.mp hf
    obtain ⟨hseen, hsent⟩ := ih hrest
    cases entry with
    | shown reply => exact ⟨congrArg _ hseen, hsent⟩
    | named list result => exact ⟨congrArg _ hseen, hsent⟩
    | noted text => exact ⟨congrArg _ hseen, hsent⟩
    | _ => exact absurd hentry id

theorem inTurn_nil (json : Bool) (session : Session) : InTurn json session [] := rfl

theorem inTurn_of_printed {session : Session} (h : ∀ entry ∈ more, entry.IsPrinted) :
    InTurn json session more := by
  have hback : ∀ entry ∈ more.reverse, entry.IsPrinted :=
    fun entry hm => h entry (List.mem_reverse.mp hm)
  obtain ⟨hseen, hsent⟩ := seen_of_printed json hback
  rw [InTurn, hseen, hsent, List.map_nil, List.append_nil]

/-- It comes in front of lines that are written. -/
theorem InTurn.append_printed {session : Session} {front : List Entry}
    (h : InTurn json session more) (hf : ∀ entry ∈ front, entry.IsPrinted) :
    InTurn json session (more ++ front) := by
  have hback : ∀ entry ∈ front.reverse, entry.IsPrinted :=
    fun entry hm => hf entry (List.mem_reverse.mp hm)
  obtain ⟨hseen, hsent⟩ := seen_of_printed json hback
  unfold InTurn at h ⊢
  rw [List.reverse_append, List.map_append, List.filterMap_append, List.filterMap_append, h,
    hseen, hsent, List.map_append, List.nil_append, List.append_assoc]

end Entries

section Lines

variable {start : Session} {json : Bool} {entries : List Entry} {conversation : Conversation}
  {frontEnd : FrontEnd}

/-- What comes of a line that is dealt with. -/
structure Deals (start : Session) (json : Bool) (entries more : List Entry) (line : Line)
    (after : Conversation) : Prop where
  /-- It is recorded. -/
  records : Records start json (more ++ entries) after
  /-- It is seen. -/
  inTurn : InTurn json after.session more
  /-- The conversation goes on, and the code of the line was sent. As long as nothing is waited
  for, nothing is written. Or the conversation has ended because the line says so. -/
  stage : (Goes start (more ++ entries) after ∧
      (after.waiting = none → ∀ entry ∈ more, entry.IsPrinted) ∧
      ∀ later, codesOf (line :: later) = (more.filterMap Entry.code?).reverse ++ codesOf later) ∨
    more = [] ∧ HasEnded entries after ∧
      ∀ later, (line = .finish → later = []) → codesOf (line :: later) = []

/-- A note is printed, and that is all. -/
theorem Goes.note (h : Goes start entries conversation)
    (hr : Records start json entries conversation) (hw : conversation.waiting = none)
    (text : String) :
    Records start json (.noted text :: entries) (conversation.print (.note text)) ∧
      Goes start (.noted text :: entries) (conversation.print (.note text)) := by
  have hawaits := h.awaits
  rw [hw] at hawaits
  refine ⟨hr.cons hawaits.1 trivial rfl rfl (List.append_nil _).symm, h.going, ?_, ?_⟩
  · exact h.attends.of_entries rfl (fun _ => rfl) rfl
  · change AwaitsReply _ _ conversation.waiting
    rw [hw]
    exact hawaits

/-- The session is closed, and the conversation ends. -/
theorem Goes.leave (h : Goes start entries conversation)
    (hr : Records start json entries conversation) (hw : conversation.waiting = none)
    (code : Nat) :
    Records start json entries (conversation.closeSession.stop code) ∧
      HasEnded entries (conversation.closeSession.stop code) := by
  have hawaits := h.awaits
  rw [hw] at hawaits
  exact ⟨⟨hr.form, hr.coherent, hr.carried, hr.printed,
    (Session.written_close hawaits.2).trans hr.written⟩, rfl, hawaits.1, hw⟩

/-- Code is sent and its outcome is waited for. -/
theorem Goes.evaluate (h : Goes start entries conversation)
    (hr : Records start json entries conversation)
    (hs : start.router.IsCharged start.spillPath frontEnd [])
    (hw : conversation.waiting = none) (code : String) :
    ∃ sent file, Records start json (.evaluated code sent file :: entries)
        (conversation.evaluate code) ∧
      Goes start (.evaluated code sent file :: entries) (conversation.evaluate code) ∧
      (conversation.evaluate code).waiting ≠ none ∧
      file = (conversation.evaluate code).session.fileFor sent.id := by
  have hawaits := h.awaits
  rw [hw] at hawaits
  let session := conversation.session
  let charge := session.chargeFor code
    { session.evaluation with waiter := some session.nextTicket }
  let file := (session.posted charge).fileFor charge.id
  have hevaluate : conversation.evaluate code
      = { conversation with
          session := session.posted charge, waiting := some (.reply session.nextTicket) } := by
    unfold Conversation.evaluate Session.eval
    rw [Session.call_of_open h.attends.isOpen]
  obtain ⟨hfresh, hcarries, hattends, hheard⟩ := h.attends.post hs code
    session.evaluation ⟨rfl, rfl⟩ rfl rfl charge rfl
    (.evaluated code (session.lineFor charge) file) rfl
  rw [hevaluate]
  refine ⟨session.lineFor charge, file, ?_, ⟨h.going, hattends, ?_⟩, by simp, rfl⟩
  · exact hr.cons ⟨hawaits.1, hfresh⟩ hcarries rfl (List.append_nil _).symm rfl
  · exact ⟨hawaits.2, session.lineFor charge, none, rfl, hheard⟩

/-- What is waited for is printed as soon as it is there. -/
theorem look_of_some {waiting : Waiting} {output : Output}
    (hw : conversation.waiting = some waiting)
    (ho : conversation.result? waiting = some output) :
    conversation.look = { conversation.print output with waiting := none } := by
  unfold Conversation.look
  rw [hw]
  dsimp only
  rw [ho]

theorem look_of_none {waiting : Waiting} (hw : conversation.waiting = some waiting)
    (ho : conversation.result? waiting = none) : conversation.look = conversation := by
  unfold Conversation.look
  rw [hw]
  dsimp only
  rw [ho]

theorem result?_names {list : NameList} {ticket : Nat}
    {result : Except SessionError (List String)}
    (h : conversation.session.settledFor ticket = some (.names result)) :
    conversation.result? (.names list ticket) = some (Conversation.renderNames list result) := by
  unfold Conversation.result?
  dsimp only
  rw [h]

theorem result?_names_of_none {list : NameList} {ticket : Nat}
    (h : conversation.session.settledFor ticket = none) :
    conversation.result? (.names list ticket) = none := by
  unfold Conversation.result?
  dsimp only
  rw [h]

/-- The names of a list are told if they are known, and asked for otherwise. -/
theorem Goes.askNames (h : Goes start entries conversation)
    (hr : Records start json entries conversation)
    (hs : start.router.IsCharged start.spillPath frontEnd [])
    (hw : conversation.waiting = none) (list : NameList) :
    (∃ names, Records start json (.named list (.ok names) :: entries)
        (conversation.askNames list) ∧
      Goes start (.named list (.ok names) :: entries) (conversation.askNames list)) ∨
    ∃ sent file, Records start json (.asked list sent file :: entries)
        (conversation.askNames list) ∧
      Goes start (.asked list sent file :: entries) (conversation.askNames list) ∧
      (conversation.askNames list).waiting ≠ none ∧
      file = (conversation.askNames list).session.fileFor sent.id := by
  have hawaits := h.awaits
  rw [hw] at hawaits
  obtain ⟨hhand, hidle⟩ := hawaits
  let session := (conversation.session.askNames list).1
  let ticket := (conversation.session.askNames list).2
  let asking := { conversation with session, waiting := some (.names list ticket) }
  have hask : conversation.askNames list = asking.look := rfl
  cases hn : conversation.session.names.get list with
  | some names =>
    obtain ⟨hattends, hi, hsettled⟩ := h.attends.askKnown hidle hn
    have hresult : asking.result? (.names list ticket)
        = some (Conversation.renderNames list (.ok names)) := result?_names hsettled
    have hwritten : session.written = conversation.session.written := by
      rw [hattends.written, h.attends.written]
      rfl
    have hknown : known list entries = some names := (h.attends.names list).symm.trans hn
    rw [hask, look_of_some rfl hresult]
    refine .inl ⟨names, ?_, h.going, hattends, rfl, hi⟩
    exact hr.cons (.inl ⟨names, hhand, hknown, rfl⟩) trivial rfl rfl
      (hwritten.trans (List.append_nil _).symm)
  | none =>
    obtain ⟨sent, file, hfresh, hcarries, hfile, hattends, hawaits⟩ :=
      h.attends.askUnknown hidle hs hn
    have hresult : asking.result? (.names list ticket) = none := result?_names_of_none hawaits.1
    have hwritten : session.written = conversation.session.written ++ [sent] := by
      rw [hattends.written, h.attends.written]
      exact List.reverse_cons
    have hknown : known list entries = none := (h.attends.names list).symm.trans hn
    rw [hask, look_of_none rfl hresult]
    refine .inr ⟨sent, file, ?_, ⟨h.going, hattends, hawaits⟩, by simp [asking], hfile⟩
    exact hr.cons ⟨hhand, hfresh, hknown⟩ hcarries rfl (List.append_nil _).symm hwritten

/-- A line is dealt with. -/
theorem Goes.take (h : Goes start entries conversation)
    (hr : Records start json entries conversation)
    (hs : start.router.IsCharged start.spillPath frontEnd [])
    (hw : conversation.waiting = none) {line : Line} (hl : ∀ fault, line ≠ .unreadable fault) :
    ∃ more, Deals start json entries more line (conversation.take line) := by
  have hnoted (text : String) {rest : Line}
      (hcodes : ∀ later, codesOf (rest :: later) = codesOf later) :
      Deals start json entries [.noted text] rest (conversation.print (.note text)) := by
    obtain ⟨hrecords, hgoes⟩ := h.note hr hw text
    have hprinted : ∀ entry ∈ [Entry.noted text], entry.IsPrinted :=
      List.forall_mem_singleton.mpr trivial
    exact ⟨hrecords, inTurn_of_printed hprinted, .inl ⟨hgoes, fun _ => hprinted, hcodes⟩⟩
  cases line with
  | unreadable fault => exact absurd rfl (hl fault)
  | finish =>
    obtain ⟨hrecords, hended⟩ := h.leave hr hw 0
    refine ⟨[], hrecords, inTurn_nil json _, .inr ⟨rfl, hended, fun later hlast => ?_⟩⟩
    rw [hlast rfl]
    rfl
  | text line =>
    have hcodes := codesOf_text line
    have htake : conversation.take (.text line) = conversation.satisfy (.ofLine line) := rfl
    rw [htake]
    cases hd : Demand.ofLine line with
    | nothing =>
      rw [hd] at hcodes
      refine ⟨[], hr, inTurn_nil json _, .inl ⟨h, fun _ entry hm => ?_, hcodes⟩⟩
      exact absurd hm List.not_mem_nil
    | quit =>
      rw [hd] at hcodes
      obtain ⟨hrecords, hended⟩ := h.leave hr hw 0
      exact ⟨[], hrecords, inTurn_nil json _, .inr ⟨rfl, hended, fun later _ => hcodes later⟩⟩
    | names list =>
      rw [hd] at hcodes
      rcases h.askNames hr hs hw list with
        ⟨names, hrecords, hgoes⟩ | ⟨sent, file, hrecords, hgoes, hwaits, hfile⟩
      · have hprinted : ∀ entry ∈ [Entry.named list (.ok names)], entry.IsPrinted :=
          List.forall_mem_singleton.mpr trivial
        exact ⟨[.named list (.ok names)], hrecords, inTurn_of_printed hprinted,
          .inl ⟨hgoes, fun _ => hprinted, hcodes⟩⟩
      · refine ⟨[.asked list sent file], hrecords, ?_,
          .inl ⟨hgoes, fun hnone => absurd hnone hwaits, hcodes⟩⟩
        rw [hfile]
        rfl
    | unknownList word =>
      rw [hd] at hcodes
      exact ⟨_, hnoted _ hcodes⟩
    | unknownCommand command =>
      rw [hd] at hcodes
      exact ⟨_, hnoted _ hcodes⟩
    | evaluate code =>
      rw [hd] at hcodes
      obtain ⟨sent, file, hrecords, hgoes, hwaits, hfile⟩ := h.evaluate hr hs hw code
      refine ⟨[.evaluated code sent file], hrecords, ?_,
        .inl ⟨hgoes, fun hnone => absurd hnone hwaits, hcodes⟩⟩
      rw [hfile]
      rfl

end Lines

section Inputs

variable {start : Session} {json : Bool} {entries : List Entry} {conversation : Conversation}
  {frontEnd : FrontEnd}

/-- What has been heard of what is waited for is printed if it is there. -/
theorem Goes.look (h : Goes start entries conversation)
    (hr : Records start json entries conversation) {waiter : Nat}
    (hw : conversation.waiting = some (.reply waiter)) :
    ∃ more, (∀ entry ∈ more, entry.IsPrinted) ∧
      Records start json (more ++ entries) conversation.look ∧
      Goes start (more ++ entries) conversation.look := by
  have hawaits := h.awaits
  rw [hw] at hawaits
  obtain ⟨hidle, sent, reply, hhand, hheard⟩ := hawaits
  have hword := hheard.word h.attends.outstanding.awaits
  have hresult : conversation.result? (.reply waiter)
      = reply.map fun outcome => .line (replyText conversation.json (some outcome)) := by
    unfold Conversation.result?
    dsimp only
    rw [hword, Option.map_map]
    rfl
  cases reply with
  | none =>
    rw [look_of_none hw hresult]
    exact ⟨[], fun _ hm => absurd hm List.not_mem_nil, hr, h⟩
  | some outcome =>
    rw [look_of_some hw hresult, hr.form]
    refine ⟨[.shown (some outcome)], List.forall_mem_singleton.mpr trivial, ?_, h.going, ?_, ?_⟩
    · exact hr.cons ⟨⟨sent, hhand⟩, fun hnone => absurd hnone (by simp)⟩ trivial rfl rfl
        (List.append_nil _).symm
    · exact h.attends.of_entries rfl (fun _ => rfl) rfl
    · exact ⟨rfl, hidle⟩

/-- A query for names ends, and it is printed what it has brought. -/
theorem Goes.told (h : Goes start entries conversation)
    (hr : Records start json entries conversation) {list : NameList} {ticket waiter : Nat}
    (hw : conversation.waiting = some (.names list ticket))
    (hlt : ticket < conversation.session.nextTicket) {sent : Sent} {reply : Option Outcome}
    (hq : conversation.session.IsAsking list ⟨ticket, waiter⟩)
    (hhand : hand entries = some ⟨some list, sent, reply⟩)
    (hword : conversation.session.router.wordFor waiter = reply.map some)
    (hlate : reply = none → ∃ before, entries = .timeUp :: before) :
    let ended :=
      { conversation with session := conversation.session.told list ⟨ticket, waiter⟩ }
    Records start json (.named list (Session.namesOf list reply) :: entries) ended.look ∧
      Goes start (.named list (Session.namesOf list reply) :: entries) ended.look := by
  intro ended
  have hreply : conversation.session.replyTo waiter = reply := by
    rw [Session.replyTo, hword]
    cases reply <;> rfl
  obtain ⟨hattends, hsettled⟩ := h.attends.told list ⟨ticket, waiter⟩ hlt
  rw [hreply] at hattends hsettled
  have hwaits : ended.waiting = some (.names list ticket) := hw
  have hlook := look_of_some hwaits (result?_names hsettled)
  have hwritten : ended.session.written = conversation.session.written :=
    Session.written_setQueue _ list _
  rw [hlook]
  refine ⟨?_, h.going, hattends, rfl, Session.isIdle_told hq⟩
  exact hr.cons (.inr ⟨sent, reply, hhand, rfl, hlate⟩) trivial rfl rfl
    (hwritten.trans (List.append_nil _).symm)

/-- Bytes come in. What they answer is printed. -/
theorem Goes.feed (h : Goes start entries conversation)
    (hr : Records start json entries conversation) (chunk : Bytes) :
    let come := ((Inbox.responses (conversation.session.inbox.receive chunk).1).map
      Entry.arrived).reverse
    let fed := { conversation with session := (conversation.session.feed chunk).1 }
    ∃ more, (∀ entry ∈ more, entry.IsPrinted) ∧
      Records start json (more ++ (come ++ entries)) fed.look ∧
      Goes start (more ++ (come ++ entries)) fed.look := by
  intro come fed
  obtain ⟨hattends, hawaits⟩ := h.attends.receive h.awaits chunk
  let received := { conversation with session := (conversation.session.receive chunk).1 }
  have hgoes : Goes start (come ++ entries) received := ⟨h.going, hattends, hawaits⟩
  have hquiet : ∀ entry ∈ come, entry.IsQuiet := by
    intro entry hm
    obtain ⟨answer, -, rfl⟩ := List.mem_map.mp (List.mem_reverse.mp hm)
    trivial
  have hwritten : received.session.written = conversation.session.written := by
    dsimp only [received]
    rw [Session.receive_eq]
  have hrecords : Records start json (come ++ entries) received :=
    hr.quiet hquiet rfl rfl hwritten
  have hnone : ∀ entry ∈ ([] : List Entry), entry.IsPrinted :=
    fun _ hm => absurd hm List.not_mem_nil
  have hfed (hresume : received.session.resume = received.session) : fed = received :=
    congrArg (fun session => { conversation with session }) hresume
  match hw : conversation.waiting with
  | none =>
    rw [hw] at hawaits
    have hlook : received.look = received := by
      unfold Conversation.look
      rw [hw]
    rw [hfed (Session.resume_of_idle hawaits.2), hlook]
    exact ⟨[], hnone, hrecords, hgoes⟩
  | some (.reply waiter) =>
    rw [hw] at hawaits
    rw [hfed (Session.resume_of_idle hawaits.1)]
    exact hgoes.look hrecords hw
  | some (.names list ticket) =>
    rw [hw] at hawaits
    obtain ⟨hunsettled, hlt, waiter, sent, reply, hasking, hhand, hheard⟩ := hawaits
    have hword := hheard.word hattends.outstanding.awaits
    have hresume := Session.resume_of_asking hasking
    dsimp only at hresume
    rw [hword] at hresume
    cases reply with
    | none =>
      have hwaits : received.waiting = some (.names list ticket) := hw
      have hlook := look_of_none hwaits (result?_names_of_none hunsettled)
      rw [hfed hresume, hlook]
      exact ⟨[], hnone, hrecords, hgoes⟩
    | some outcome =>
      have hsame : fed
          = { received with session := received.session.told list ⟨ticket, waiter⟩ } :=
        congrArg (fun session => { conversation with session }) hresume
      rw [hsame]
      exact ⟨[.named list (Session.namesOf list (some outcome))],
        List.forall_mem_singleton.mpr trivial,
        hgoes.told hrecords hw hlt hasking hhand hword fun hn => absurd hn (by simp)⟩

/-- The time is up. What has been heard is printed, or that there is nothing. -/
theorem Goes.giveUp (h : Goes start entries conversation)
    (hr : Records start json entries conversation) :
    ∃ more, (∀ entry ∈ more, entry.IsPrinted) ∧
      Records start json (more ++ .timeUp :: entries) conversation.giveUp ∧
      Goes start (more ++ .timeUp :: entries) conversation.giveUp := by
  have hattends : Attends start (.timeUp :: entries) conversation.session :=
    h.attends.of_entries rfl (fun _ => rfl) rfl
  have hquiet : ∀ entry ∈ [Entry.timeUp], entry.IsQuiet := List.forall_mem_singleton.mpr trivial
  have hrecords : Records start json (.timeUp :: entries) conversation :=
    hr.quiet hquiet rfl rfl rfl
  have hawaits := h.awaits
  unfold Conversation.giveUp
  match hw : conversation.waiting with
  | none =>
    rw [hw] at hawaits
    refine ⟨[], fun _ hm => absurd hm List.not_mem_nil, hrecords, h.going, hattends, ?_⟩
    rw [hw]
    exact hawaits
  | some (.reply waiter) =>
    rw [hw] at hawaits
    obtain ⟨hidle, sent, reply, hhand, hheard⟩ := hawaits
    have hreply : conversation.session.replyTo waiter = reply := by
      rw [Session.replyTo, hheard.word h.attends.outstanding.awaits]
      cases reply <;> rfl
    dsimp only
    rw [hreply, hr.form]
    refine ⟨[.shown reply], List.forall_mem_singleton.mpr trivial, ?_, h.going, ?_, rfl, hidle⟩
    · exact hrecords.cons ⟨⟨sent, hhand⟩, fun _ => ⟨entries, rfl⟩⟩ trivial rfl rfl
        (List.append_nil _).symm
    · exact hattends.of_entries rfl (fun _ => rfl) rfl
  | some (.names list ticket) =>
    have hgoes : Goes start (.timeUp :: entries) conversation := by
      refine ⟨h.going, hattends, ?_⟩
      rw [hw] at hawaits ⊢
      exact hawaits
    rw [hw] at hawaits
    obtain ⟨hunsettled, hlt, waiter, sent, reply, hasking, hhand, hheard⟩ := hawaits
    have hword := hheard.word h.attends.outstanding.awaits
    have htold := hgoes.told hrecords hw hlt hasking hhand hword fun _ => ⟨entries, rfl⟩
    dsimp only at htold ⊢
    rw [hw] at htold
    rw [Session.expireNames_of_asking hasking]
    exact ⟨[.named list (Session.namesOf list reply)], List.forall_mem_singleton.mpr trivial,
      htold⟩

end Inputs

end ReplLink.CommandLine
