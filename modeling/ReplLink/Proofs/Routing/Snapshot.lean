import ReplLink.Proofs.Routing.Ascending
import ReplLink.Proofs.Routing.Dismissal
import Mathlib.Data.List.Nodup

/-!
# Ending all jobs settles a snapshot

When all jobs are ended, those that wait at that moment are taken out of the roster first. What
their callbacks command afterwards, be it to register jobs under the same ids, to route
responses or to end all jobs again, is about other registrations: the ones that were taken out
are parting, and `Parts` says of the number of such a registration that nothing but its
dismissal settles it. Every step keeps this, and it keeps what was settled before.
-/

namespace ReplLink.Routing

/-- Of two books that number their entries in order, one that has all entries of the other
begins with them. -/
theorem Book.prefix_of_forall_mem {first second : Book}
    (hf : first.map (·.number) = List.range first.length)
    (hs : second.map (·.number) = List.range second.length)
    (h : ∀ entry ∈ first, entry ∈ second) : first <+: second := by
  have hnumber {book : Book} (hb : book.map (·.number) = List.range book.length) {i : Nat}
      (hi : i < book.length) : book[i].number = i := by
    have hg := List.getElem_map (l := book) (·.number) (i := i) (h := by simpa using hi)
    simp only [hb, List.getElem_range] at hg
    exact hg.symm
  refine List.prefix_iff_getElem?.mpr fun i hi => ?_
  obtain ⟨j, hj, he⟩ := List.getElem_of_mem (h _ (List.getElem_mem hi))
  have hij : j = i := by
    rw [← hnumber hs hj, he, hnumber hf hi]
  subst hij
  rw [List.getElem?_eq_getElem hj, he]

namespace Registration

/-- The registration when it has been dismissed under a policy: settled in this one way, with
its failure callback started under the failing policy and with none under the abandoning one. -/
def dismissed (policy : Policy) (entry : Registration) : Registration :=
  { entry with
    started :=
      match policy with
      | .abandon => []
      | .fail => [(.failure ⟨"connection closed", []⟩, entry.job.onFailure)]
    endings := [.dismissed policy] }

/-- What stays the same of a registration as long as it is in the book. -/
def card (entry : Registration) : Nat × String × Job := (entry.number, entry.id, entry.job)

/-- What has the card of a registration and was settled by its dismissal is the registration,
dismissed. -/
theorem eq_dismissed {policy : Policy} {entry current : Registration} (hf : current.IsFair)
    (hc : current.card = entry.card) (he : current.endings = [.dismissed policy]) :
    current = entry.dismissed policy := by
  obtain ⟨number, id, job, started, endings⟩ := current
  have hfair : started = (Ending.dismissed policy).starts job := by
    rcases hf with hnone | ⟨ending, hone, hs⟩
    · exact absurd (he.symm.trans hnone) (by simp)
    · obtain rfl := List.singleton_inj.mp (he.symm.trans hone)
      exact hs
  obtain ⟨rfl, hrest⟩ := Prod.mk.inj hc
  obtain ⟨rfl, rfl⟩ := Prod.mk.inj hrest
  subst hfair he
  cases policy <;> rfl

end Registration

/-- The cards of the registrations that a frame is there to dismiss under a policy. -/
def Frame.parting (policy : Policy) : Frame → List (Nat × String × Job)
  | .dismiss other entries => if other = policy then entries.map (·.card) else []
  | .release other entry => if other = policy then [entry.card] else []
  | _ => []

theorem Frame.mem_due_of_mem_parting {policy : Policy} {frame : Frame}
    {card : Nat × String × Job} (h : card ∈ frame.parting policy) :
    card ∈ frame.due.map (·.card) := by
  cases frame with
  | dismiss other entries =>
    rw [parting] at h
    split at h
    · exact h
    · exact absurd h List.not_mem_nil
  | release other entry =>
    rw [parting] at h
    split at h
    · exact h
    · exact absurd h List.not_mem_nil
  | _ => exact absurd h List.not_mem_nil

namespace Machine

variable {machine : Machine} {policy : Policy} {card : Nat × String × Job}

/-- The cards of the registrations that are to be dismissed under a policy. -/
def parting (machine : Machine) (policy : Policy) : List (Nat × String × Job) :=
  machine.stack.flatMap (Frame.parting policy)

theorem mem_parting_iff :
    card ∈ machine.parting policy ↔ ∃ frame ∈ machine.stack, card ∈ frame.parting policy :=
  List.mem_flatMap

/-- What is due is in the book, and open. -/
theorem Sound.mem_book_of_mem_due (h : machine.Sound) {entry : Registration}
    (hd : entry ∈ machine.due) : entry ∈ machine.book ∧ entry.isOpen = true :=
  List.mem_filter.mp (h.due.mem_iff.mp hd)

/-- No two entries of the book have the same number. -/
theorem Sound.eq_of_number_eq (h : machine.Sound) {entry other : Registration}
    (he : entry ∈ machine.book) (ho : other ∈ machine.book) (hn : entry.number = other.number) :
    entry = other :=
  List.inj_on_of_nodup_map (h.numbered ▸ List.nodup_range) he ho hn

/-- What is due is due in one place. -/
theorem Sound.nodup_due (h : machine.Sound) : (machine.due.map (·.number)).Nodup := by
  have hbook : (machine.book.map (·.number)).Nodup := h.numbered ▸ List.nodup_range
  exact (h.due.map _).nodup_iff.mpr (hbook.sublist (List.filter_sublist.map _))

/-- A registration that is parting is due. -/
theorem exists_due_of_mem_parting (h : card ∈ machine.parting policy) :
    ∃ entry ∈ machine.stack.flatMap Frame.due, entry.card = card := by
  obtain ⟨frame, hf, hn⟩ := mem_parting_iff.mp h
  obtain ⟨entry, he, rfl⟩ := List.mem_map.mp (Frame.mem_due_of_mem_parting hn)
  exact ⟨entry, List.mem_flatMap.mpr ⟨frame, hf, he⟩, rfl⟩

/-- An entry of the book is changed where it is due, and nowhere else. -/
theorem Sound.mem_amend (h : machine.Sound) {entry : Registration} (he : entry ∈ machine.book)
    (hs : entry.isOpen = false) {other : Registration} (ho : other ∈ machine.due)
    (change : Registration → Registration) : entry ∈ machine.book.amend other.number change := by
  obtain ⟨hb, hopen⟩ := h.mem_book_of_mem_due ho
  refine List.mem_map.mpr ⟨entry, he, if_neg fun hn => ?_⟩
  rw [h.eq_of_number_eq he hb hn, hopen] at hs
  exact absurd hs (by simp)

/-- Beginning a command leaves what is settled in the book as it is. -/
theorem Sound.settled_give (h : machine.Sound) {entry : Registration}
    (he : entry ∈ machine.book) (hs : entry.isOpen = false) (command : Command) :
    entry ∈ (machine.give command).book := by
  cases command with
  | enter id job =>
    rw [Machine.give]
    split
    · exact he
    · exact List.mem_append_left _ he
  | route response =>
    rw [Machine.give]
    split
    · next job hh =>
      have hheld : machine.entryOf response.requestId job ∈ machine.held :=
        List.mem_map_of_mem ((Roster.mem_waiting_iff h.keys).mpr hh)
      exact h.mem_amend he hs (List.mem_append_left _ hheld) _
    · exact he
  | endAll policy => exact he
  | contains id => exact he
  | size => exact he
  | describe job => exact he
  | summary => exact he
  | deleteFile path => exact he

/-- What is settled stays in the book as it is. -/
theorem Sound.settled_step (h : machine.Sound) {entry : Registration}
    (he : entry ∈ machine.book) (hs : entry.isOpen = false) : entry ∈ machine.step.book := by
  have hdue {frame : Frame} {rest : List Frame} (hst : machine.stack = frame :: rest)
      {other : Registration} (ho : other ∈ frame.due) : other ∈ machine.due := by
    rw [Machine.due, hst]
    exact List.mem_append_right _ (List.mem_flatMap.mpr ⟨frame, List.mem_cons_self, ho⟩)
  rw [Machine.step]
  split
  · exact he
  · exact he
  · next command others rest hst =>
    have hnext := (h.pop hst rfl rfl).push (.queue others) rfl rfl trivial
    exact hnext.settled_give he hs command
  · exact he
  · next command others rest hst =>
    have hnext := ((h.pop hst rfl rfl).push (.program others) rfl rfl trivial).push
      (.report (machine.router.replyTo command)) rfl rfl trivial
    exact hnext.settled_give he hs command
  · exact he
  · next left outcome rest hst => exact h.mem_amend he hs (hdue hst List.mem_cons_self) _
  · exact he
  · next policy left others rest hst =>
    cases policy with
    | abandon => exact he
    | fail => exact h.mem_amend he hs (hdue hst List.mem_cons_self) _
  · next policy left rest hst => exact h.mem_amend he hs (hdue hst List.mem_cons_self) _

theorem Sound.settled_after (h : machine.Sound) {entry : Registration}
    (he : entry ∈ machine.book) (hs : entry.isOpen = false) (count : Nat) :
    entry ∈ (machine.after count).book := by
  induction count generalizing machine with
  | zero => exact he
  | succ count ih => exact ih h.step (h.settled_step he hs)

/-- Beginning a command leaves what lies on the stack there. -/
theorem mem_stack_give {frame : Frame} (h : frame ∈ machine.stack) (command : Command) :
    frame ∈ (machine.give command).stack := by
  cases command with
  | enter id job =>
    rw [give]
    split <;> exact h
  | route response =>
    rw [give]
    split
    · exact List.mem_append_right _ (List.mem_cons_of_mem _ h)
    · exact h
  | endAll policy => exact List.mem_cons_of_mem _ h
  | contains id => exact h
  | size => exact h
  | describe job => exact h
  | summary => exact h
  | deleteFile path => exact h

/-- The card is that of a registration that is parting under a policy, or has been dismissed
under it. -/
def Parts (machine : Machine) (policy : Policy) (card : Nat × String × Job) : Prop :=
  card ∈ machine.parting policy ∨
    ∃ entry ∈ machine.book, entry.card = card ∧ entry.endings = [.dismissed policy]

/-- Something on top of the stack is done with that is not about the registration. -/
theorem parting_of_cons {frame : Frame} {rest : List Frame} (hs : machine.stack = frame :: rest)
    (h : card ∈ machine.parting policy) :
    card ∈ frame.parting policy ∨ card ∈ rest.flatMap (Frame.parting policy) := by
  rw [parting, hs, List.flatMap_cons] at h
  exact List.mem_append.mp h

theorem parting_give (h : card ∈ machine.parting policy) (command : Command) :
    card ∈ (machine.give command).parting policy := by
  obtain ⟨frame, hf, hn⟩ := mem_parting_iff.mp h
  exact mem_parting_iff.mpr ⟨frame, mem_stack_give hf command, hn⟩

/-- A registration that is next to be dismissed is parting until it is released. -/
theorem parting_dismissOne {other : Policy} {entry : Registration}
    {others : List Registration} {rest : List Frame}
    (hs : machine.stack = .dismiss other (entry :: others) :: rest)
    (h : card ∈ machine.parting policy) :
    card ∈ (dismissOne { machine with stack := .dismiss other others :: rest } other
      entry).parting policy := by
  have hmoved : card ∈ Frame.parting policy (.release other entry)
      ++ (Frame.parting policy (.dismiss other others)
        ++ rest.flatMap (Frame.parting policy)) := by
    rcases parting_of_cons hs h with h | h
    · simp only [Frame.parting] at h ⊢
      split at h
      · next he =>
        rw [if_pos he, if_pos he]
        rcases List.mem_cons.mp h with rfl | h
        · exact List.mem_append_left _ List.mem_cons_self
        · exact List.mem_append_right _ (List.mem_append_left _ h)
      · exact absurd h List.not_mem_nil
    · exact List.mem_append_right _ (List.mem_append_right _ h)
  cases other with
  | abandon => exact hmoved
  | fail =>
    rw [parting, dismissOne, start, List.flatMap_append]
    exact List.mem_append_right _ hmoved

/-- Every step keeps a registration parting, or dismisses it. -/
theorem Sound.parts_step (h : machine.Sound) (hp : machine.Parts policy card) :
    machine.step.Parts policy card := by
  rcases hp with hp | ⟨entry, he, hn, hends⟩
  · have hnone {frame : Frame} {rest : List Frame} (hs : machine.stack = frame :: rest)
        (hf : frame.parting policy = []) : card ∈ rest.flatMap (Frame.parting policy) := by
      refine (parting_of_cons hs hp).resolve_left ?_
      rw [hf]
      exact List.not_mem_nil
    rw [Machine.step]
    split
    · exact .inl hp
    · next hs => exact .inl (hnone hs rfl)
    · next command others rest hs =>
      have hrest := hnone hs rfl
      have hnext : card ∈ parting { machine with stack := .queue others :: rest } policy := hrest
      exact .inl (parting_give hnext command)
    · next hs => exact .inl (hnone hs rfl)
    · next command others rest hs =>
      let waits : List Frame :=
        .report (machine.router.replyTo command) :: .program others :: rest
      have hrest := hnone hs rfl
      have hnext : card ∈ parting { machine with stack := waits } policy := hrest
      exact .inl (parting_give hnext command)
    · next hs => exact .inl (hnone hs rfl)
    · next hs => exact .inl (hnone hs rfl)
    · next other rest hs => exact .inl (hnone hs (by simp [Frame.parting]))
    · next hs => exact .inl (parting_dismissOne hs hp)
    · next other entry rest hs =>
      rcases parting_of_cons hs hp with hp | hp
      · -- It is released now.
        rw [Frame.parting] at hp
        split at hp
        · next hpolicy =>
          have hdue : entry ∈ machine.due := (due_perm hs).mem_iff.mpr List.mem_cons_self
          obtain ⟨hbook, hopen⟩ := h.mem_book_of_mem_due hdue
          have hends : entry.endings = [] := List.isEmpty_iff.mp hopen
          refine .inr ⟨entry.settle (.dismissed other),
            List.mem_map.mpr ⟨entry, hbook, if_pos rfl⟩, (List.mem_singleton.mp hp).symm, ?_⟩
          rw [Registration.settle, hends, hpolicy]
          rfl
        · exact absurd hp List.not_mem_nil
      · exact .inl hp
  · refine .inr ⟨entry, h.settled_step he ?_, hn, hends⟩
    rw [Registration.isOpen, hends]
    rfl

theorem Sound.parts_after (h : machine.Sound) (hp : machine.Parts policy card) (count : Nat) :
    (machine.after count).Parts policy card := by
  induction count generalizing machine with
  | zero => exact hp
  | succ count ih => exact ih h.step (h.parts_step hp)

/-- A registration that is parting or dismissed has not been settled in another way. -/
theorem Sound.endings_of_parts (h : machine.Sound) (hp : machine.Parts policy card)
    {entry : Registration} (he : entry ∈ machine.book) (hn : entry.number = card.1) :
    entry.endings = [] ∨ entry.endings = [.dismissed policy] := by
  rcases hp with hp | ⟨other, ho, hoc, hends⟩
  · obtain ⟨other, ho, rfl⟩ := exists_due_of_mem_parting hp
    obtain ⟨hb, hopen⟩ := h.mem_book_of_mem_due (List.mem_append_right _ ho)
    rw [h.eq_of_number_eq he hb hn]
    exact .inl (List.isEmpty_iff.mp hopen)
  · rw [h.eq_of_number_eq he ho (hn.trans (congrArg Prod.fst hoc).symm)]
    exact .inr hends

/-- The registration's job waits. -/
def isHeld (machine : Machine) (entry : Registration) : Bool :=
  machine.held.any (·.number == entry.number)

/-- The jobs that wait are parting once they have been taken out of the roster. -/
theorem parting_endAll (machine : Machine) (policy : Policy) {entry : Registration}
    (h : entry ∈ machine.held) : entry.card ∈ (machine.give (.endAll policy)).parting policy := by
  refine mem_parting_iff.mpr ⟨.dismiss policy machine.held, List.mem_cons_self, ?_⟩
  rw [Frame.parting, if_pos rfl]
  exact List.mem_map_of_mem h

/-- What was parting and is not on the stack any more has been dismissed. -/
theorem Sound.dismissed_of_parts (h : machine.Sound) {entry : Registration}
    (hp : machine.Parts policy entry.card)
    (hgone : entry.number ∉ (machine.stack.flatMap Frame.due).map (·.number)) :
    entry.dismissed policy ∈ machine.book := by
  rcases hp with hp | ⟨current, hc, hcard, hends⟩
  · obtain ⟨other, ho, hcard⟩ := exists_due_of_mem_parting hp
    refine absurd (List.mem_map.mpr ⟨other, ho, ?_⟩) hgone
    exact congrArg Prod.fst hcard
  · rw [← Registration.eq_dismissed (h.fair current hc) hcard hends]
    exact hc

/-- What is not among the jobs that wait stays as it is until all of them are ended. -/
theorem Sound.mem_book_of_not_isHeld (h : machine.Sound) {entry : Registration}
    (he : entry ∈ machine.book) (hh : machine.isHeld entry = false) {last : Machine}
    (hl : last.Sound) (hs : last.stack = machine.stack)
    (hsettled : entry.isOpen = false → entry ∈ last.book) : entry ∈ last.book := by
  cases hopen : entry.isOpen with
  | false => exact hsettled hopen
  | true =>
    have hdue := h.due.mem_iff.mpr (List.mem_filter.mpr ⟨he, hopen⟩)
    rcases List.mem_append.mp hdue with hheld | hstack
    · have hyes : machine.isHeld entry = true :=
        List.any_eq_true.mpr ⟨entry, hheld, beq_self_eq_true _⟩
      rw [hh] at hyes
      exact absurd hyes (by simp)
    · rw [← hs] at hstack
      exact (hl.mem_book_of_mem_due (List.mem_append_right _ hstack)).1

/-- Ending all jobs has settled those that waited when it began. -/
structure SettlesSnapshot (machine : Machine) (policy : Policy) : Prop where
  /-- They are counted. -/
  count : (machine.router.perform (.endAll policy)).2
    = .count machine.router.roster.waiting.length
  /-- They are listed in the ascending order of the bytes of their ids. -/
  order : (machine.router.roster.waiting.map fun pair => bytesOf pair.1).Pairwise (· < ·)
  /-- They are ended one after the other, in the order of this list. -/
  each : Router.ConcludesAll policy
    { machine.router with roster := machine.router.roster.checkedOut }
    machine.router.roster.waiting (machine.router.perform (.endAll policy)).1
  /-- When this is done, just their registrations have been settled, each in this one way, of
  all that were in the book; what the callbacks have registered stands behind these. -/
  settled : ∃ last, ((machine.give (.endAll policy)).after last).router
      = (machine.router.perform (.endAll policy)).1 ∧
    ((machine.give (.endAll policy)).after last).stack = machine.stack ∧
    (machine.book.map fun entry =>
      if machine.isHeld entry then entry.dismissed policy else entry)
        <+: ((machine.give (.endAll policy)).after last).book
  /-- At no time, meanwhile or later, is one of them settled by a response. -/
  unanswered : ∀ now, ∀ entry ∈ machine.held,
    ∀ current ∈ ((machine.give (.endAll policy)).after now).book,
      current.number = entry.number →
        current.endings = [] ∨ current.endings = [.dismissed policy]
  /-- Where no callback gives commands, nothing is left to be ended by another such command. -/
  again : (∀ pair ∈ machine.router.roster.waiting, policy.program pair.2 = []) →
    ∀ other, (machine.router.perform (.endAll policy)).1.perform (.endAll other)
      = ((machine.router.perform (.endAll policy)).1, .count 0)

/-- Ending all jobs settles the jobs that wait at that moment and no others, whatever their
callbacks command, also where a callback has given the command. -/
theorem settlesSnapshot_endAll (machine : Machine) (policy : Policy) (h : machine.Orderly) :
    machine.SettlesSnapshot policy where
  count := by
    rw [Router.perform_endAll]
    rfl
  order := Roster.ascending_waiting h.ascending
  each := by
    rw [Router.perform_endAll]
    exact Router.concludesAll_endAll policy _ _
  settled := by
    obtain ⟨last, hr, hs⟩ := machine.comes_give (.endAll policy)
    have hbegun : (machine.give (.endAll policy)).Sound := h.sound.give _
    have hlast := hbegun.after last
    refine ⟨last, hr, hs, Book.prefix_of_forall_mem ?_ hlast.numbered fun entry he => ?_⟩
    · have hnumbers : ∀ entry : Registration,
          (if machine.isHeld entry then entry.dismissed policy else entry).number
            = entry.number := by
        intro entry
        split <;> rfl
      rw [List.map_map, List.length_map, ← h.sound.numbered]
      exact List.map_congr_left fun entry _ => hnumbers entry
    · obtain ⟨entry, hb, rfl⟩ := List.mem_map.mp he
      cases hh : machine.isHeld entry with
      | false =>
        rw [if_neg (by simp)]
        exact h.sound.mem_book_of_not_isHeld hb hh hlast hs fun hclosed =>
          hbegun.settled_after (h.sound.settled_give hb hclosed _) hclosed last
      | true =>
        obtain ⟨held, hheld, hn⟩ := List.any_eq_true.mp hh
        have hdue := List.mem_append_left (machine.stack.flatMap Frame.due) hheld
        obtain rfl : held = entry :=
          h.sound.eq_of_number_eq (h.sound.mem_book_of_mem_due hdue).1 hb (eq_of_beq hn)
        rw [if_pos rfl]
        refine hlast.dismissed_of_parts
          (hbegun.parts_after (.inl (machine.parting_endAll policy hheld)) last) ?_
        have hnodup := h.sound.nodup_due
        rw [due, List.map_append, List.nodup_append] at hnodup
        rw [hs]
        exact fun hm => hnodup.2.2 _ (List.mem_map_of_mem hheld) _ hm rfl
  unanswered := by
    intro now entry hheld current hc hn
    have hbegun : (machine.give (.endAll policy)).Sound := h.sound.give _
    exact (hbegun.after now).endings_of_parts
      (hbegun.parts_after (.inl (machine.parting_endAll policy hheld)) now) hc hn
  again := by
    intro hp other
    have hroster := (Router.concludesAll_endAll policy
      { machine.router with roster := machine.router.roster.checkedOut }
      machine.router.roster.waiting).roster_eq hp
    rw [Router.perform_endAll machine.router]
    exact Router.perform_endAll_of_checkedOut hroster other

/-- A job whose failure callback registers another job under an id that is being ended, routes a
response to it, and ends all jobs itself. -/
def usurper : Job :=
  { JobOf.plain "usurper" "main" "main" with
    onFailure := .run [.enter "b" (.plain "other" "main" "main"), .route ⟨"b", .success none⟩,
      .enter "a" (.plain "third" "main" "main"), .endAll .abandon] }

/-- A job with a file and a caller who waits, whose failure callback fails. -/
def victim : Job :=
  { JobOf.plain "victim" "main" "main" with
    onFailure := .panic .nameless
    attached := [⟨"/tmp/code", .attached "1"⟩]
    waiter := some 7 }

/-- A job whose callback ends all jobs. -/
def quitter : Job :=
  { JobOf.plain "quitter" "main" "main" with onSuccess := .run [.endAll .fail, .size] }

/-- A machine in the middle of that callback, when the other two jobs wait. -/
def quitting : Machine :=
  (idle .editor [.enter "b" victim, .enter "c" quitter, .enter "a" usurper,
    .route ⟨"c", .success none⟩]).after 4

/-- The two are ended by the callback of the third one, under either policy. Each busy time ends
once, and the caller is told either that the connection was closed or that there will be no
value. -/
theorem settlesSnapshot_quitter :
    let failed := (quitting.router.perform (.endAll .fail)).1
    let abandoned := (quitting.router.perform (.endAll .abandon)).1
    quitting.Orderly ∧ quitting.router.roster.waiting = [("a", usurper), ("b", victim)] ∧
      quitting.stack.head? = some (.program [.endAll .fail, .size]) ∧
      failed.wordFor 7 = some (some (.failure ⟨"connection closed", []⟩)) ∧
      failed.log
        = [.succeeded "quitter" none,
          .notice (.ended "a" "main" .fail),
          .failed "usurper" ⟨"connection closed", []⟩,
          .nested .done ["b", "c"],
          .notice (.finished "main"),
          .busyStop "main",
          .nested .done ["c"],
          .nested .done ["a", "c"],
          .notice (.ended "a" "main" .abandon),
          .busyStop "main",
          .nested (.count 1) ["c"],
          .busyStop "main",
          .notice (.ended "b" "main" .fail),
          .failed "victim" ⟨"connection closed", []⟩,
          .notice (.panicked "b" .nameless),
          .busyStop "main"] ∧
      abandoned.wordFor 7 = some none ∧
      abandoned.log
        = [.succeeded "quitter" none,
          .notice (.ended "a" "main" .abandon),
          .busyStop "main",
          .notice (.ended "b" "main" .abandon),
          .busyStop "main"] ∧
      quitting.SettlesSnapshot .fail ∧ quitting.SettlesSnapshot .abandon := by
  intro failed abandoned
  have horderly : quitting.Orderly := (orderly_idle _ _).after 4
  have hfailed : failed = ((quitting.router.still.give (.endAll .fail)).after 18).router :=
    Router.perform_eq_of_ended quitting.router _ 18 rfl
  have habandoned :
      abandoned = ((quitting.router.still.give (.endAll .abandon)).after 5).router :=
    Router.perform_eq_of_ended quitting.router _ 5 rfl
  refine ⟨horderly, rfl, rfl, ?_, ?_, ?_, ?_, settlesSnapshot_endAll quitting .fail horderly,
    settlesSnapshot_endAll quitting .abandon horderly⟩
  · rw [hfailed]
    rfl
  · rw [hfailed]
    rfl
  · rw [habandoned]
    rfl
  · rw [habandoned]
    rfl

end Machine

end ReplLink.Routing
