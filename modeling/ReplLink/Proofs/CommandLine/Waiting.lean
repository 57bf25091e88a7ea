import ReplLink.Proofs.CommandLine.Dialogue
import ReplLink.Proofs.Session.Alone

/-!
# A session in a dialogue

As long as the connection of a conversation is up, its session agrees with the dialogue so
far: every request without an answer is registered, the names that are known are the ones
that were brought, and what is waited for has been heard of as the dialogue tells.
-/

namespace ReplLink.CommandLine

open ReplLink.Routing ReplLink.Stream ReplLink.Text

section Definitions

/-- An open session agrees with the dialogue that was led over it. -/
structure Attends (start : Session) (entries : List Entry) (session : Session) : Prop where
  /-- Nothing stands in the way of a request. -/
  isOpen : session.IsOpen
  /-- It has come from the session at the start, -/
  reached : start.Reaches session
  /-- whose settings it has. -/
  settings : session.settings = start.settings
  /-- Its requests are in order. -/
  outstanding : session.Outstanding
  /-- What has not been answered is registered. -/
  registered : ∀ id ∈ unanswered entries,
    ∃ job, session.router.roster.heldUnder id = some job
  /-- It knows the names that were brought. -/
  names : ∀ list, session.names.get list = known list entries
  /-- Who has got something has had a number. -/
  numbered : ∀ pair ∈ session.settled, pair.1 < session.nextTicket
  /-- It has written the lines that were sent. -/
  written : session.written = (entries.filterMap Entry.sent?).reverse

/-- What a conversation waits for is what the dialogue tells. -/
def AwaitsReply (entries : List Entry) (session : Session) : Option Waiting → Prop
  | none => hand entries = none ∧ session.IsIdle
  | some (.reply waiter) => session.IsIdle ∧
    ∃ sent reply, hand entries = some ⟨none, sent, reply⟩ ∧
      session.router.HasHeard sent.id waiter reply
  | some (.names list ticket) =>
    session.settledFor ticket = none ∧ ticket < session.nextTicket ∧
    ∃ waiter sent reply, session.IsAsking list ⟨ticket, waiter⟩ ∧
      hand entries = some ⟨some list, sent, reply⟩ ∧
      session.router.HasHeard sent.id waiter reply

end Definitions

section Requests

variable {start session : Session} {entries : List Entry}

/-- A request is sent under an id of its own and carries its code, and nothing has been heard
of it. -/
theorem Attends.post (h : Attends start entries session) {frontEnd : FrontEnd}
    (hs : start.router.IsCharged start.spillPath frontEnd []) (code : String) (job : Job)
    (hp : job.IsPassive) (ha : job.attached = []) (hv : job.viaFile = false) (charge : Charge)
    (hc : charge = session.chargeFor code { job with waiter := some session.nextTicket })
    (entry : Entry) {list : Option NameList}
    (he : entry.pending? = some ⟨list, session.lineFor charge, none⟩) :
    charge.id ∉ unanswered entries ∧
      Session.Carries start.settings start.spillPath code (session.lineFor charge)
        ((session.posted charge).fileFor charge.id) ∧
      Attends start (entry :: entries) (session.posted charge) ∧
      (session.posted charge).router.HasHeard charge.id session.nextTicket none := by
  have hwrites := Session.writes_posted h.isOpen code job
  have hreached := h.reached.posted h.isOpen code hp ha
  have houtstanding := h.outstanding.posted h.isOpen code hp
  have hcarries := Session.carries_posted h.isOpen hs h.reached code hp ha hv hc
  obtain ⟨charges, hevolves⟩ := h.reached
  rw [h.settings, Session.spillPath_congr (hevolves.isCharged hs).1] at hcarries
  rw [← hc] at hwrites hreached houtstanding
  obtain ⟨hfree, registered, hw, hroster⟩ := hwrites.entered _ rfl
  have hid : (session.lineFor charge).id = charge.id := rfl
  rw [hid] at hfree hroster
  obtain ⟨-, hids, hsent, hknown⟩ := hand_cons_of_pending entries he
  have hheld : (session.posted charge).router.roster.heldUnder charge.id = some registered := by
    rw [hroster, Roster.heldUnder, Keyed.get?_put_self]
  have hfresh : charge.id ∉ unanswered entries := by
    intro hm
    obtain ⟨job, hh⟩ := h.registered _ hm
    rw [Roster.heldUnder, hfree] at hh
    exact absurd hh (by simp)
  refine ⟨hfresh, hcarries, ?_, registered, hheld, hw⟩
  exact
    { isOpen := h.isOpen.posted charge
      reached := hreached
      settings := h.settings
      outstanding := houtstanding
      registered := by
        intro id hm
        rw [hids] at hm
        rcases List.mem_cons.mp hm with rfl | hm
        · exact ⟨registered, hheld⟩
        · obtain ⟨job, hh⟩ := h.registered id hm
          exact ⟨job, hwrites.heldUnder hh⟩
      names := fun list => (h.names list).trans (hknown list).symm
      numbered := fun pair hm => Nat.lt_succ_of_lt (h.numbered pair hm)
      written := by
        rw [List.filterMap_cons_some hsent, List.reverse_cons, ← h.written]
        exact hwrites.written }

end Requests

section Responses

variable {start session after : Session} {entries more : List Entry} {waiting : Option Waiting}

/-- What the standing of a session tells of it stays as it is. -/
theorem Attends.of_standing (h : Attends start entries session)
    (hs : after.standing = session.standing) (hc : after.canSpill = session.canSpill)
    (hw : after.written = session.written) (hn : session.nextTicket ≤ after.nextTicket)
    (hr : start.Reaches after) (ho : after.Outstanding)
    (hu : ∀ id ∈ unanswered more, ∃ job, after.router.roster.heldUnder id = some job)
    (hk : ∀ list, known list more = known list entries)
    (hm : more.filterMap Entry.sent? = entries.filterMap Entry.sent?) :
    Attends start more after where
  isOpen :=
    { connected := (congrArg Session.Standing.connected hs).trans h.isOpen.connected
      channel := (congrArg Session.Standing.channel hs).trans h.isOpen.channel
      canSpill := hc.trans h.isOpen.canSpill }
  reached := hr
  settings := (congrArg Session.Standing.settings hs).trans h.settings
  outstanding := ho
  registered := hu
  names := by
    intro list
    have hnames : after.names = session.names := congrArg Session.Standing.names hs
    rw [hnames, hk list]
    exact h.names list
  numbered := by
    have hsettled : after.settled = session.settled := congrArg Session.Standing.settled hs
    rw [hsettled]
    exact fun pair hm => Nat.lt_of_lt_of_le (h.numbered pair hm) hn
  written := by rw [hw, hm, h.written]

/-- The dialogue may go on without the session. -/
theorem Attends.of_entries (h : Attends start entries session)
    (hu : unanswered more = unanswered entries)
    (hk : ∀ list, known list more = known list entries)
    (hm : more.filterMap Entry.sent? = entries.filterMap Entry.sent?) :
    Attends start more session :=
  h.of_standing rfl rfl rfl (Nat.le_refl _) h.reached h.outstanding (hu ▸ h.registered) hk hm

/-- A response that arrives is routed. -/
theorem Attends.route (h : Attends start entries session) (answer : Response) :
    Attends start (.arrived answer :: entries)
      { session with router := (session.router.perform (.route answer)).1 } := by
  have hsettles := Router.settles_route h.outstanding.awaits.passive answer
  refine h.of_standing rfl rfl rfl (Nat.le_refl _) ?_ (h.outstanding.of_settles hsettles rfl) ?_
    (fun list => rfl) rfl
  · obtain ⟨charges, hevolves⟩ := h.reached
    exact ⟨_, hevolves.routed answer⟩
  · intro id hm
    obtain ⟨hm, hne⟩ := List.mem_filter.mp hm
    obtain ⟨job, hh⟩ := h.registered id hm
    exact ⟨job, Router.heldUnder_route h.outstanding.awaits (by simpa using hne) hh⟩

/-- What is waited for hears of it. -/
theorem AwaitsReply.route (h : AwaitsReply entries session waiting) (ho : session.Outstanding)
    (answer : Response) :
    AwaitsReply (.arrived answer :: entries)
      { session with router := (session.router.perform (.route answer)).1 } waiting := by
  match waiting with
  | none => exact ⟨congrArg (Option.map _) h.1, h.2⟩
  | some (.reply waiter) =>
    obtain ⟨hidle, sent, reply, hhand, hheard⟩ := h
    exact ⟨hidle, sent, _, congrArg (Option.map _) hhand, hheard.route ho.awaits answer⟩
  | some (.names list ticket) =>
    obtain ⟨hsettled, hlt, waiter, sent, reply, hasking, hhand, hheard⟩ := h
    have hasked : Session.IsAsking
        { session with router := (session.router.perform (.route answer)).1 } list
        ⟨ticket, waiter⟩ := hasking.congr rfl
    exact ⟨hsettled, hlt, waiter, sent, _, hasked, congrArg (Option.map _) hhand,
      hheard.route ho.awaits answer⟩

/-- Nothing changes if what is registered and what callers were told stays as it is. -/
theorem AwaitsReply.of_standing (h : AwaitsReply entries session waiting)
    (hs : after.standing = session.standing) (hn : after.nextTicket = session.nextTicket)
    (hr : after.router.roster = session.router.roster)
    (hw : after.router.words = session.router.words) : AwaitsReply entries after waiting := by
  have hidle (hi : session.IsIdle) : after.IsIdle :=
    fun list => (Session.queueOf_congr hs list).trans (hi list)
  match waiting with
  | none => exact ⟨h.1, hidle h.2⟩
  | some (.reply waiter) =>
    obtain ⟨hi, sent, reply, hhand, hheard⟩ := h
    exact ⟨hidle hi, sent, reply, hhand, hheard.congr hr hw⟩
  | some (.names list ticket) =>
    obtain ⟨hsettled, hlt, waiter, sent, reply, hasking, hhand, hheard⟩ := h
    have hsame : after.settled = session.settled := congrArg Session.Standing.settled hs
    refine ⟨?_, hn ▸ hlt, waiter, sent, reply, hasking.congr hs, hhand, hheard.congr hr hw⟩
    rw [Session.settledFor, hsame]
    exact hsettled

/-- What the stream hands out is heard of, one response after the other. -/
theorem Attends.receive (h : Attends start entries session)
    (ha : AwaitsReply entries session waiting)
    (chunk : Bytes) :
    let more := ((Inbox.responses (session.inbox.receive chunk).1).map Entry.arrived).reverse
    Attends start (more ++ entries) (session.receive chunk).1 ∧
      AwaitsReply (more ++ entries) (session.receive chunk).1 waiting := by
  have hall : ∀ (deliveries : List Delivery) (entries : List Entry) (state : Session × Nat),
      Attends start entries state.1 → AwaitsReply entries state.1 waiting →
      Attends start (((Inbox.responses deliveries).map Entry.arrived).reverse ++ entries)
          (deliveries.foldl Session.accept state).1 ∧
        AwaitsReply (((Inbox.responses deliveries).map Entry.arrived).reverse ++ entries)
          (deliveries.foldl Session.accept state).1 waiting := by
    intro deliveries
    induction deliveries with
    | nil => exact fun _ _ h ha => ⟨h, ha⟩
    | cons delivery rest ih =>
      intro entries state h ha
      have hreached := h.reached.accept state.2 delivery
      rw [List.foldl_cons]
      rw [Session.accept_eq] at hreached ⊢
      cases delivery with
      | violation why consumed =>
        refine ih entries _ ?_ (ha.of_standing rfl rfl rfl rfl)
        exact h.of_standing rfl rfl rfl (Nat.le_refl _) hreached
          (h.outstanding.of_subset (fun _ _ hh => hh) rfl (Nat.le_refl _)) h.registered
          (fun _ => rfl) rfl
      | response answer =>
        have hresponses : Inbox.responses (.response answer :: rest)
            = answer :: Inbox.responses rest := rfl
        rw [hresponses, List.map_cons, List.reverse_cons, List.append_assoc,
          List.singleton_append, Router.accept_response]
        exact ih (.arrived answer :: entries) _ (h.route answer) (ha.route h.outstanding answer)
  have hinbox : start.Reaches { session with inbox := (session.inbox.receive chunk).2 } :=
    h.reached.kept rfl
  refine hall _ entries _ ?_ (ha.of_standing rfl rfl rfl rfl)
  exact h.of_standing rfl rfl rfl (Nat.le_refl _) hinbox
    (h.outstanding.of_subset (fun _ _ hh => hh) rfl (Nat.le_refl _)) h.registered
    (fun _ => rfl) rfl

/-- What is learnt when the names of a list are told is what is known from then on. -/
theorem Attends.get_learnt (h : Attends start entries session) (list other : NameList)
    (result : Except SessionError (List String)) :
    (Session.learnt session.names list result).get other
      = known other (.named list result :: entries) := by
  cases result with
  | error error => exact h.names other
  | ok names =>
    rw [Session.learnt, known]
    split
    · next he => rw [he, KnownNames.get_fill_self]
    · next he =>
      rw [KnownNames.get_fill_of_ne _ _ (Ne.symm he)]
      exact h.names other

theorem Attends.setQueue (h : Attends start entries session) (list : NameList) (queue : Queue) :
    Attends start entries (session.setQueue list queue) where
  isOpen := by cases list <;> exact ⟨h.isOpen.connected, h.isOpen.channel, h.isOpen.canSpill⟩
  reached := h.reached.setQueue list queue
  settings := (Session.settings_setQueue session list queue).trans h.settings
  outstanding := by
    have hrouter := Session.router_setQueue session list queue
    have hticket := Session.nextTicket_setQueue session list queue
    exact h.outstanding.of_subset (fun _ _ hh => hrouter ▸ hh) (congrArg Router.words hrouter)
      (Nat.le_of_eq hticket.symm)
  registered := by cases list <;> exact h.registered
  names := by cases list <;> exact h.names
  numbered := by cases list <;> exact h.numbered
  written := (Session.written_setQueue session list queue).trans h.written

/-- A caller with a number gets what has become of a list, which is learnt. -/
theorem Attends.settle (h : Attends start entries session) (list : NameList)
    (result : Except SessionError (List String)) {ticket next : Nat} (hlt : ticket < next)
    (hn : session.nextTicket ≤ next) :
    Attends start (.named list result :: entries)
      { session.settle ticket (.names result) with
        names := Session.learnt session.names list result, nextTicket := next } where
  isOpen := ⟨h.isOpen.connected, h.isOpen.channel, h.isOpen.canSpill⟩
  reached := h.reached.kept rfl
  settings := h.settings
  outstanding := h.outstanding.of_subset (fun _ _ hh => hh) rfl hn
  registered := h.registered
  names := fun other => h.get_learnt list other result
  numbered := List.forall_mem_cons.mpr
    ⟨hlt, fun pair hm => Nat.lt_of_lt_of_le (h.numbered pair hm) hn⟩
  written := h.written

/-- A query for names ends with what has been heard of it. -/
theorem Attends.told (h : Attends start entries session) (list : NameList) (query : Query)
    (hlt : query.ticket < session.nextTicket) :
    Attends start
        (.named list (Session.namesOf list (session.replyTo query.waiter)) :: entries)
        (session.told list query) ∧
      (session.told list query).settledFor query.ticket
        = some (.names (Session.namesOf list (session.replyTo query.waiter))) := by
  have hended := h.settle list (Session.namesOf list (session.replyTo query.waiter)) hlt
    (Nat.le_refl _)
  refine ⟨hended.setQueue list ⟨none, []⟩, ?_⟩
  rw [Session.settledFor, Session.told, Session.settled_setQueue]
  exact List.lookup_cons_self

/-- Names that are known are told at once. -/
theorem Attends.askKnown (h : Attends start entries session) (hi : session.IsIdle)
    {list : NameList} {names : List String} (hn : session.names.get list = some names) :
    Attends start (.named list (.ok names) :: entries) (session.askNames list).1 ∧
      (session.askNames list).1.IsIdle ∧
      (session.askNames list).1.settledFor (session.askNames list).2
        = some (.names (.ok names)) := by
  have hlearnt := Session.learnt_of_known hn
  have hended := h.settle list (.ok names) (Nat.lt_succ_self session.nextTicket) (Nat.le_succ _)
  rw [hlearnt] at hended
  rw [Session.askNames_of_known hi hn]
  exact ⟨hended, hi.settle session.nextTicket (.names (.ok names)), List.lookup_cons_self⟩

/-- For others a query is sent. -/
theorem Attends.askUnknown (h : Attends start entries session) (hi : session.IsIdle)
    {frontEnd : FrontEnd} (hs : start.router.IsCharged start.spillPath frontEnd [])
    {list : NameList} (hn : session.names.get list = none) :
    ∃ sent file, sent.id ∉ unanswered entries ∧
      Session.Carries start.settings start.spillPath (start.settings.question list) sent file ∧
      file = (session.askNames list).1.fileFor sent.id ∧
      Attends start (.asked list sent file :: entries) (session.askNames list).1 ∧
      AwaitsReply (.asked list sent file :: entries) (session.askNames list).1
        (some (.names list (session.askNames list).2)) := by
  let come := { session with nextTicket := session.nextTicket + 1 }
  have hcome : Attends start entries come :=
    h.of_standing rfl rfl rfl (Nat.le_succ _) (h.reached.kept rfl)
      (h.outstanding.of_subset (fun _ _ hh => hh) rfl (Nat.le_succ _)) h.registered
      (fun _ => rfl) rfl
  let charge := come.chargeFor (session.settings.question list)
    { session.inquiry with waiter := some (session.nextTicket + 1) }
  let queue : Queue := ⟨some ⟨session.nextTicket, session.nextTicket + 1⟩, []⟩
  have hasked : session.askNames list
      = ((come.posted charge).setQueue list queue, session.nextTicket) :=
    Session.askNames_of_open hi h.isOpen hn
  let file := (come.posted charge).fileFor charge.id
  obtain ⟨hfresh, hcarries, hattends, hheard⟩ := hcome.post hs (session.settings.question list)
    session.inquiry ⟨rfl, rfl⟩ rfl rfl charge rfl (.asked list (come.lineFor charge) file) rfl
  rw [h.settings] at hcarries
  have hidle : (come.posted charge).IsIdle := hi
  have hnobody : session.settled.lookup session.nextTicket = none := by
    refine List.lookup_eq_none_iff.mpr fun pair hm => bne_iff_ne.mpr ?_
    exact Nat.ne_of_gt (h.numbered pair hm)
  rw [hasked]
  refine ⟨come.lineFor charge, file, hfresh, hcarries, ?_, hattends.setQueue list queue, ?_⟩
  · exact (Session.fileFor_setQueue _ list queue _).symm
  · refine ⟨?_, ?_, session.nextTicket + 1, come.lineFor charge, none, hidle.isAsking list _,
      rfl, ?_⟩
    · rw [Session.settledFor, Session.settled_setQueue]
      exact hnobody
    · rw [Session.nextTicket_setQueue]
      exact Nat.lt_succ_of_lt (Nat.lt_succ_self _)
    · rw [Session.router_setQueue]
      exact hheard

end Responses

end ReplLink.CommandLine
