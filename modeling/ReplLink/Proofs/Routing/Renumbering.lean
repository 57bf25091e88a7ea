import ReplLink.Proofs.Routing.Waiters

/-!
# Callers who wait change nothing

A caller who waits for a job has left its number there. The number is looked at
once, to tell the caller when the job has ended, and that is all that becomes of it.
So numbers can be exchanged for others, or taken away, before a command is carried
out or behind it: the router tells, shows, deletes and replies the same. A command
of a callback is carried out in the middle of another one, so this is proved for the
machine that carries out commands in single steps.
-/

namespace ReplLink

namespace Keyed

variable {α β : Type}

/-- Changes all values. -/
def map (f : α → β) (keyed : Keyed α) : Keyed β :=
  ⟨keyed.entries.map fun pair => (pair.1, f pair.2)⟩

/-- Mapping the values of a keyed collection keeps its keys, in their order. -/
theorem keys_map (f : α → β) (keyed : Keyed α) : (keyed.map f).keys = keyed.keys := by
  rw [keys, map, List.map_map]
  rfl

theorem size_map (f : α → β) (keyed : Keyed α) : (keyed.map f).size = keyed.size :=
  List.length_map _

/-- A lookup in a mapped collection is the mapped lookup. -/
theorem get?_map (f : α → β) (keyed : Keyed α) (key : String) :
    (keyed.map f).get? key = (keyed.get? key).map f := by
  suffices all : ∀ list : List (String × α),
      lookIn key (list.map fun pair => (pair.1, f pair.2)) = (lookIn key list).map f from
    all keyed.entries
  intro list
  induction list with
  | nil => rfl
  | cons head rest ih =>
    rw [List.map_cons, lookIn, lookIn, ih]
    split <;> rfl

theorem contains_map (f : α → β) (keyed : Keyed α) (key : String) :
    (keyed.map f).contains key = keyed.contains key := by
  rw [contains, get?_map, Option.isSome_map, contains]

/-- Erasing a key and mapping the values commute. -/
theorem erase_map (f : α → β) (keyed : Keyed α) (key : String) :
    (keyed.map f).erase key = (keyed.erase key).map f := by
  rw [erase, map, List.filter_map]
  rfl

/-- Inserting into a list of pairs and mapping its values commute. -/
theorem insertIn_map (f : α → β) (key : String) (value : α) (list : List (String × α)) :
    insertIn key (f value) (list.map fun pair => (pair.1, f pair.2))
      = (insertIn key value list).map fun pair => (pair.1, f pair.2) := by
  induction list with
  | nil => rfl
  | cons head rest ih =>
    rw [List.map_cons, insertIn, insertIn, ih]
    split <;> rfl

/-- Putting a value under a key and mapping the values commute. -/
theorem put_map (f : α → β) (keyed : Keyed α) (key : String) (value : α) :
    (keyed.map f).put key (f value) = (keyed.put key value).map f := by
  rw [put, erase_map]
  exact congrArg Keyed.mk (insertIn_map f key value _)

end Keyed

namespace Routing

section Definitions

variable (number : Nat → Option Nat)

/-- The job with another number for the caller who waits, or with none. -/
def JobOf.renumber (job : Job) : Job := { job with waiter := job.waiter.bind number }

/-- What is filed under an id, with another number. -/
def Holding.renumber : Holding → Holding
  | .held job => .held (job.renumber number)
  | .out => .out

/-- What is kept for callers, with other numbers for them. -/
def renumberAll {α : Type} (pairs : List (Nat × α)) : List (Nat × α) :=
  pairs.filterMap fun pair => (number pair.1).map fun caller => (caller, pair.2)

/-- The router with other numbers for all who wait or have been told. -/
def Router.renumber (router : Router) : Router :=
  { router with
    roster := router.roster.map (Holding.renumber number)
    words := renumberAll number router.words }

/-- The registration with another number for the caller who waits. -/
def Registration.renumber (entry : Registration) : Registration :=
  { entry with job := entry.job.renumber number }

/-- The frame with other numbers for the callers who wait. -/
def Frame.renumber : Frame → Frame
  | .finish entry outcome => .finish (entry.renumber number) outcome
  | .dismiss policy entries => .dismiss policy (entries.map (Registration.renumber number))
  | .release policy entry => .release policy (entry.renumber number)
  | .queue commands => .queue commands
  | .program commands => .program commands
  | .report reply => .report reply

/-- The machine with other numbers for all who wait or have been told. -/
def Machine.renumber (machine : Machine) : Machine where
  router := machine.router.renumber number
  book := machine.book.map (Registration.renumber number)
  numbers := machine.numbers
  stack := machine.stack.map (Frame.renumber number)

end Definitions

variable (number : Nat → Option Nat)

/-- With its own number a caller finds what it has found with the other one. -/
theorem lookup_renumberAll {α : Type} {number : Nat → Option Nat} {caller other : Nat}
    (h : ∀ first, number first = some other ↔ first = caller) (pairs : List (Nat × α)) :
    (renumberAll number pairs).lookup other = pairs.lookup caller := by
  induction pairs with
  | nil => rfl
  | cons pair rest ih =>
    obtain ⟨first, value⟩ := pair
    rw [List.lookup_cons, renumberAll, List.filterMap_cons, ← renumberAll]
    by_cases hf : first = caller
    · have hown : number first = some other := (h first).mpr hf
      have hsame : (caller == first) = true := beq_iff_eq.mpr hf.symm
      rw [hown, hsame]
      exact List.lookup_cons_self
    · have hb : (caller == first) = false := beq_eq_false_iff_ne.mpr (Ne.symm hf)
      rw [hb]
      cases hn : number first with
      | none => exact ih
      | some third =>
        have hne : (other == third) = false :=
          beq_eq_false_iff_ne.mpr fun he => hf ((h first).mp (hn.trans (congrArg some he.symm)))
        dsimp only [Option.map_some]
        rw [List.lookup_cons, hne]
        exact ih

/-- Numbers that are exchanged twice are exchanged once for the last ones. -/
theorem renumberAll_renumberAll {α : Type} (first second : Nat → Option Nat)
    (pairs : List (Nat × α)) :
    renumberAll second (renumberAll first pairs)
      = renumberAll (fun caller => (first caller).bind second) pairs := by
  rw [renumberAll, renumberAll, List.filterMap_filterMap]
  congr 1
  funext pair
  dsimp only
  cases first pair.1 with
  | none => rfl
  | some caller => rfl

/-- Renumbering the caller of a holding twice is renumbering it once by the composed numbering.
-/
theorem Holding.renumber_renumber (first second : Nat → Option Nat) (holding : Holding) :
    (holding.renumber first).renumber second
      = holding.renumber fun caller => (first caller).bind second := by
  cases holding with
  | held job =>
    rw [renumber, renumber, renumber, JobOf.renumber, JobOf.renumber, JobOf.renumber,
      Option.bind_assoc]
  | out => rfl

/-- Renumbering the callers of a roster twice is renumbering them once by the composed
numbering. -/
theorem Roster.renumber_renumber (first second : Nat → Option Nat) (roster : Roster) :
    Keyed.map (Holding.renumber second) (roster.map (Holding.renumber first))
      = roster.map (Holding.renumber fun caller => (first caller).bind second) := by
  rw [Keyed.map, Keyed.map, Keyed.map, List.map_map]
  congr 2
  funext entry
  exact Prod.ext rfl (Holding.renumber_renumber first second entry.2)

/-- A job that nobody waits for has no number to exchange. -/
theorem JobOf.renumber_of_waiter {job : Job} (h : job.waiter = none) :
    job.renumber number = job := by
  rw [JobOf.renumber, h, Option.bind_none, ← h]

@[simp] theorem JobOf.callback_renumber (job : Job) (outcome : Outcome) :
    (job.renumber number).callback outcome = job.callback outcome := by
  cases outcome <;> rfl

/-- What is filed is the same job or the same mark. -/
theorem Roster.heldUnder_renumber (roster : Roster) (id : String) :
    Roster.heldUnder (roster.map (Holding.renumber number)) id
      = (roster.heldUnder id).map (JobOf.renumber number) := by
  rw [heldUnder, Keyed.get?_map, heldUnder]
  cases roster.get? id with
  | none => rfl
  | some holding => cases holding <;> rfl

/-- The waiting jobs of a renumbered roster are the waiting jobs, renumbered. -/
theorem Roster.waiting_renumber (roster : Roster) :
    Roster.waiting (roster.map (Holding.renumber number))
      = roster.waiting.map fun pair => (pair.1, pair.2.renumber number) := by
  rw [waiting_eq, waiting_eq, Keyed.map, List.filterMap_map, List.map_filterMap]
  congr 1
  funext entry
  obtain ⟨id, holding⟩ := entry
  cases holding <;> rfl

/-- Renumbering callers does not change which ids are checked out. -/
theorem Roster.checkedOut_renumber (roster : Roster) :
    Roster.checkedOut (roster.map (Holding.renumber number))
      = Keyed.map (Holding.renumber number) roster.checkedOut := by
  rw [checkedOut, checkedOut, Keyed.map, Keyed.map, List.filter_map]
  congr 2
  refine List.filter_congr fun entry _ => ?_
  obtain ⟨id, holding⟩ := entry
  cases holding <;> rfl

/-- The words a renumbered job is owed are those it was owed, under the new number. -/
theorem wordsOf_renumber (job : Job) (word : Word) :
    wordsOf (job.renumber number) word = renumberAll number (wordsOf job word) := by
  unfold wordsOf JobOf.renumber renumberAll
  cases job.waiter with
  | none => rfl
  | some waiter =>
    cases h : number waiter with
    | none => simp [h]
    | some other => simp [h]

namespace Router

theorem note_renumber (router : Router) (events : List Event) :
    (router.renumber number).note events = (router.note events).renumber number := rfl

/-- Telling a renumbered job its word is telling the job and renumbering. -/
theorem tell_renumber (router : Router) (job : Job) (word : Word) :
    (router.renumber number).tell (job.renumber number) word
      = (router.tell job word).renumber number := by
  rw [tell_eq, tell_eq, wordsOf_renumber, renumber, renumber, renumberAll, renumberAll,
    renumberAll, List.filterMap_append]

theorem notePanic_renumber (router : Router) (id : String) (panic : Option Panic) :
    (router.renumber number).notePanic id panic = (router.notePanic id panic).renumber number := by
  rw [notePanic_eq, notePanic_eq, note_renumber]

/-- Giving up the resources of a job does not depend on its caller's number. -/
theorem release_renumber (router : Router) (job : Job) :
    (router.renumber number).release (job.renumber number)
      = (router.release job).renumber number := by
  rw [release_eq, release_eq]
  rfl

/-- Finishing a renumbered job leaves the renumbered router. -/
theorem finish_renumber (router : Router) (id : String) (job : Job) (outcome : Outcome)
    (panic : Option Panic) :
    (router.renumber number).finish id (job.renumber number) outcome panic
      = (router.finish id job outcome panic).renumber number := by
  rw [finish, finish, notePanic_renumber, release_renumber, ← tell_renumber]
  refine congrArg (fun router : Router => router.tell _ _) ?_
  rw [renumber, renumber, Roster.free, Roster.free, Keyed.erase_map]

/-- What is shown of a failure does not depend on the caller's number. -/
theorem showFailure_renumber (router : Router) (job : Job) (outcome : Outcome) :
    (router.renumber number).showFailure (job.renumber number) outcome
      = (router.showFailure job outcome).renumber number := by
  rw [showFailure_eq, showFailure_eq, ← note_renumber]
  cases outcome <;> rfl

theorem ids_renumber (router : Router) : (router.renumber number).ids = router.ids :=
  Keyed.keys_map _ _

/-- The summary of the outstanding requests counts no caller, so renumbering keeps it. -/
theorem summary_renumber (router : Router) :
    (router.renumber number).summary = router.summary := by
  have hsize : (router.renumber number).roster.size = router.roster.size := Keyed.size_map _ _
  unfold summary
  rw [hsize]

/-- The reply to a command does not depend on the numbers. -/
theorem replyTo_renumber (router : Router) (command : Command) :
    (router.renumber number).replyTo command = router.replyTo command := by
  cases command with
  | enter id job =>
    rw [replyTo, replyTo, renumber, Keyed.contains_map]
  | route response =>
    rw [replyTo, replyTo, renumber, Roster.heldUnder_renumber]
    cases router.roster.heldUnder response.requestId <;> rfl
  | endAll policy => rw [replyTo, replyTo, renumber, Roster.waiting_renumber, List.length_map]
  | contains id => rw [replyTo, replyTo, renumber, Keyed.contains_map]
  | size => rw [replyTo, replyTo, renumber, Keyed.size_map]
  | describe job => rfl
  | summary => exact congrArg Reply.text (summary_renumber number router)
  | deleteFile path => rfl

end Router

/-- Starting a callback and settling write the same into an entry. -/
theorem start_renumber_entry (outcome : Outcome) (entry : Registration) :
    (entry.renumber number).start outcome = (entry.start outcome).renumber number := by
  rw [Registration.start, Registration.renumber, JobOf.callback_renumber]
  rfl

theorem settle_renumber (ending : Ending) (entry : Registration) :
    (entry.renumber number).settle ending = (entry.settle ending).renumber number := rfl

namespace Machine

/-- An entry that is changed with other numbers is the changed entry with other numbers. -/
theorem amend_renumber (book : Book) (entryNumber : Nat) {change : Registration → Registration}
    (h : ∀ entry, change (entry.renumber number) = (change entry).renumber number) :
    Book.amend (book.map (Registration.renumber number)) entryNumber change
      = (Book.amend book entryNumber change).map (Registration.renumber number) := by
  rw [Book.amend, Book.amend, List.map_map, List.map_map]
  refine List.map_congr_left fun entry _ => ?_
  dsimp only [Function.comp_apply]
  rw [apply_ite (Registration.renumber number), h]
  rfl

theorem frames_renumber (callback : Callback) :
    callback.frames.map (Frame.renumber number) = callback.frames := by
  cases callback <;> rfl

/-- Starting the callback of a renumbered entry puts the same frames on the stack. -/
theorem start_renumber (machine : Machine) (entry : Registration) (outcome : Outcome) :
    (machine.renumber number).start (entry.renumber number) outcome
      = (machine.start entry outcome).renumber number := by
  have hbook : Book.amend (machine.book.map (Registration.renumber number)) entry.number
        (·.start outcome)
      = (Book.amend machine.book entry.number (·.start outcome)).map
          (Registration.renumber number) :=
    amend_renumber number machine.book entry.number (start_renumber_entry number outcome)
  have hstack : (entry.job.callback outcome).frames ++ machine.stack.map (Frame.renumber number)
      = ((entry.job.callback outcome).frames ++ machine.stack).map (Frame.renumber number) := by
    rw [List.map_append, frames_renumber]
  have hannounce (callback : Callback) :
      callback.announce (entry.job.renumber number) outcome
        = callback.announce entry.job outcome := by
    cases callback <;> cases outcome <;> rfl
  rw [start, start, renumber, renumber, Registration.renumber, JobOf.callback_renumber, hannounce,
    hbook, hstack, Router.note_renumber]

theorem entryOf_renumber (machine : Machine) (id : String) (job : Job) :
    (machine.renumber number).entryOf id (job.renumber number)
      = (machine.entryOf id job).renumber number := rfl

/-- A response is resolved with any numbers as with others. -/
theorem resolve_renumber (machine : Machine) (response : Response) (job : Job) :
    (machine.renumber number).resolve response (job.renumber number)
      = (machine.resolve response job).renumber number := by
  have hroster : Keyed.put (machine.router.roster.map (Holding.renumber number))
        response.requestId .out
      = (machine.router.roster.put response.requestId .out).map (Holding.renumber number) :=
    Keyed.put_map (Holding.renumber number) machine.router.roster response.requestId .out
  have hstarted : (Registration.renumber number (machine.entryOf response.requestId job)).start
        response.outcome
      = ((machine.entryOf response.requestId job).start response.outcome).renumber number :=
    start_renumber_entry number response.outcome _
  rw [resolve, resolve, entryOf_renumber, ← start_renumber]
  refine congrArg (fun machine : Machine => machine.start _ _) ?_
  rw [hstarted, renumber, renumber, ← Router.showFailure_renumber]
  dsimp only [Router.renumber]
  rw [hroster]
  rfl

/-- All that wait are taken with any numbers as with others. -/
theorem takeAll_renumber (machine : Machine) (policy : Policy) :
    (machine.renumber number).takeAll policy = (machine.takeAll policy).renumber number := by
  have hentries : ((Roster.waiting (machine.router.roster.map (Holding.renumber number))).map
        fun pair => (machine.renumber number).entryOf pair.1 pair.2)
      = (machine.router.roster.waiting.map fun pair => machine.entryOf pair.1 pair.2).map
          (Registration.renumber number) := by
    rw [Roster.waiting_renumber, List.map_map, List.map_map]
    rfl
  have hchecked : Roster.checkedOut (machine.router.roster.map (Holding.renumber number))
      = machine.router.roster.checkedOut.map (Holding.renumber number) :=
    Roster.checkedOut_renumber number machine.router.roster
  rw [takeAll, takeAll]
  dsimp only [renumber, Router.renumber]
  rw [List.map_cons, Frame.renumber, ← hentries, hchecked]
  rfl

/-- A job that nobody waits for is registered with any numbers as with others. -/
theorem register_renumber (machine : Machine) (id : String) {job : Job}
    (h : job.waiter = none) :
    (machine.renumber number).register id job = (machine.register id job).renumber number := by
  have hjob : job.renumber number = job := JobOf.renumber_of_waiter number h
  have hroster : Keyed.put (machine.router.roster.map (Holding.renumber number)) id (.held job)
      = (machine.router.roster.put id (.held job)).map (Holding.renumber number) := by
    rw [← Keyed.put_map, Holding.renumber, hjob]
  let entry : Registration := ⟨machine.book.length, id, job, [], []⟩
  have hbook : machine.book.map (Registration.renumber number) ++ [entry]
      = (machine.book ++ [entry]).map (Registration.renumber number) := by
    rw [List.map_append, List.map_singleton, Registration.renumber, hjob]
  rw [register, register]
  dsimp only [renumber, Router.renumber, Router.layFiles]
  rw [hroster, List.length_map, ← hbook]

/-- A command begins with any numbers as with others. -/
theorem give_renumber (machine : Machine) {command : Command} (h : command.AddsNoWaiter) :
    (machine.renumber number).give command = (machine.give command).renumber number := by
  cases command with
  | enter id job =>
    have hcontains : (machine.renumber number).router.roster.contains id
        = machine.router.roster.contains id := Keyed.contains_map _ _ _
    rw [give, give, hcontains]
    split
    · rfl
    · exact register_renumber number machine id h.1
  | route response =>
    have hheld : (machine.renumber number).router.roster.heldUnder response.requestId
        = (machine.router.roster.heldUnder response.requestId).map (JobOf.renumber number) :=
      Roster.heldUnder_renumber number _ _
    rw [give, give, hheld]
    cases machine.router.roster.heldUnder response.requestId with
    | none => rfl
    | some job => exact resolve_renumber number machine response job
  | endAll policy => exact takeAll_renumber number machine policy
  | describe job => rfl
  | deleteFile path => rfl
  | contains id => rfl
  | size => rfl
  | summary => rfl

/-- The next job is dismissed with any numbers as with others. -/
theorem dismissOne_renumber (machine : Machine) (policy : Policy) (entry : Registration) :
    (machine.renumber number).dismissOne policy (entry.renumber number)
      = (machine.dismissOne policy entry).renumber number := by
  cases policy with
  | abandon => rfl
  | fail =>
    have hstarted : (Registration.renumber number entry).start (.failure Router.connectionLost)
        = (entry.start (.failure Router.connectionLost)).renumber number :=
      start_renumber_entry number _ entry
    rw [dismissOne, dismissOne, ← start_renumber]
    refine congrArg (fun machine : Machine => machine.start _ _) ?_
    rw [hstarted]
    rfl

/-- Each step is done with any numbers as with others. -/
theorem step_renumber {machine : Machine} (h : machine.AddsNoWaiter) :
    (machine.renumber number).step = machine.step.renumber number := by
  obtain ⟨router, book, numbers, stack⟩ := machine
  cases stack with
  | nil => rfl
  | cons frame rest =>
    have hframe : frame.AddsNoWaiter := h.frames frame List.mem_cons_self
    cases frame with
    | queue commands =>
      cases commands with
      | nil => rfl
      | cons command others =>
        exact give_renumber number ⟨router, book, numbers, .queue others :: rest⟩
          (hframe command List.mem_cons_self)
    | program commands =>
      cases commands with
      | nil => rfl
      | cons command others =>
        have hgive := give_renumber number ⟨router, book, numbers,
          .report (router.replyTo command) :: .program others :: rest⟩
          (hframe command List.mem_cons_self)
        have hreply := Router.replyTo_renumber number router command
        have hlower : step (renumber number ⟨router, book, numbers,
              .program (command :: others) :: rest⟩)
            = give ⟨router.renumber number, book.map (Registration.renumber number), numbers,
                .report ((router.renumber number).replyTo command) :: .program others
                  :: rest.map (Frame.renumber number)⟩ command := rfl
        rw [hlower, hreply]
        exact hgive
    | report reply =>
      have hids : (router.renumber number).note [.nested reply (router.renumber number).ids]
          = (router.note [.nested reply router.ids]).renumber number := by
        rw [Router.ids_renumber, Router.note_renumber]
      exact congrArg (fun router : Router => Machine.mk router _ _ _) hids
    | finish entry outcome =>
      have hlower : step (renumber number ⟨router, book, numbers, .finish entry outcome :: rest⟩)
          = ⟨(router.renumber number).finish entry.id (entry.job.renumber number) outcome
                ((entry.job.renumber number).callback outcome).panic?,
              Book.amend (book.map (Registration.renumber number)) entry.number
                (·.settle (.answered outcome)),
              numbers, rest.map (Frame.renumber number)⟩ := rfl
      rw [hlower, JobOf.callback_renumber, Router.finish_renumber,
        amend_renumber number book entry.number (settle_renumber number (.answered outcome))]
      rfl
    | dismiss policy entries =>
      cases entries with
      | nil => rfl
      | cons entry others =>
        exact dismissOne_renumber number
          ⟨router, book, numbers, .dismiss policy others :: rest⟩ policy entry
    | release policy entry =>
      have hpanic : policy.panic? (entry.job.renumber number) = policy.panic? entry.job := by
        cases policy <;> rfl
      have hlower : step (renumber number ⟨router, book, numbers, .release policy entry :: rest⟩)
          = ⟨(((router.renumber number).notePanic entry.id
                (policy.panic? (entry.job.renumber number))).release
                (entry.job.renumber number)).tell (entry.job.renumber number)
                (Router.lastWord policy),
              Book.amend (book.map (Registration.renumber number)) entry.number
                (·.settle (.dismissed policy)),
              numbers, rest.map (Frame.renumber number)⟩ := rfl
      rw [hlower, hpanic, Router.notePanic_renumber, Router.release_renumber,
        Router.tell_renumber,
        amend_renumber number book entry.number (settle_renumber number (.dismissed policy))]
      rfl

/-- So is any number of steps. -/
theorem after_renumber {machine : Machine} (h : machine.AddsNoWaiter) (count : Nat) :
    (machine.renumber number).after count = (machine.after count).renumber number := by
  induction count generalizing machine with
  | zero => rfl
  | succ count ih => rw [after, after, step_renumber number h, ih h.step]

end Machine

/-- A command is carried out with any numbers as with others. -/
theorem Router.perform_renumber {router : Router} (h : router.AddsNoWaiter) {command : Command}
    (hc : command.AddsNoWaiter) :
    (router.renumber number).perform command
      = ((router.perform command).1.renumber number, (router.perform command).2) := by
  obtain ⟨count, hr, hs⟩ := Machine.comes_carrying router command
  have hstart : (Machine.carrying router command).renumber number
      = Machine.carrying (router.renumber number) command := rfl
  have hafter := Machine.after_renumber number (h.carrying hc) count
  rw [hstart] at hafter
  have hcomes : (Machine.carrying (router.renumber number) command).Comes
      ((router.perform command).1.renumber number) [] := by
    refine ⟨count, ?_, ?_⟩
    · rw [hafter, ← hr]
      rfl
    · rw [hafter, Machine.renumber, hs]
      rfl
  have hrouter := Machine.router_of_comes (Machine.comes_carrying (router.renumber number) command)
    hcomes
  refine Prod.ext hrouter ?_
  rw [perform_snd, replyTo_renumber, perform_snd]

end Routing

end ReplLink
