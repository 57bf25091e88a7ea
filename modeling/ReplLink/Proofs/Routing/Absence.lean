import ReplLink.Proofs.Routing.Ledger

/-!
# While a job is out

As long as the callbacks of a job run, the job is out of the roster and its id is marked.
Nothing that is done meanwhile touches it, whatever the callbacks command and whatever the
callbacks do that this sets off: it is not registered again, not resolved again and not
ended with the others. The invariant `Guards` says so of a machine: the id is marked, and
nothing on the stack is due to settle a registration under it. Every step keeps it.

The machine that runs the callbacks has the end of the resolution below them on its stack.
As long as there is something above, a step does not look at what is below.
-/

namespace ReplLink

open ReplLink.Routing

/-- Filing under a name leaves the pairs of the other names. -/
theorem Keyed.mem_put_iff {α : Type} {map : Keyed α} {key other : String} {value found : α}
    (h : other ≠ key) :
    (other, found) ∈ (map.put key value).entries ↔ (other, found) ∈ map.entries := by
  rw [(put_perm map key value).mem_iff, List.mem_cons, erase, List.mem_filter]
  simp [h]

namespace Routing

namespace Roster

/-- An id is registered, and its job is out. -/
structure IsOut (roster : Roster) (id : String) : Prop where
  /-- The id is marked. -/
  marked : (id, .out) ∈ roster.entries
  /-- No job waits under it. -/
  only : ∀ holding, (id, holding) ∈ roster.entries → holding = .out

variable {roster : Roster} {id other : String}

/-- A job that is checked out is out, whatever was registered before. -/
theorem isOut_put (roster : Roster) (id : String) : IsOut (roster.put id .out) id where
  marked := (Keyed.put_perm roster id .out).mem_iff.mpr List.mem_cons_self
  only := by
    intro holding hm
    rcases List.mem_cons.mp ((Keyed.put_perm roster id .out).mem_iff.mp hm) with he | hm
    · exact (Prod.mk.inj he).2
    · exact absurd (List.mem_filter.mp hm).2 (by simp)

/-- What is registered under another id leaves the job out. -/
theorem IsOut.put (h : roster.IsOut id) (hne : id ≠ other) (holding : Holding) :
    IsOut (roster.put other holding) id where
  marked := (Keyed.mem_put_iff hne).mpr h.marked
  only := fun found hm => h.only found ((Keyed.mem_put_iff hne).mp hm)

/-- So does freeing another id. -/
theorem IsOut.erase (h : roster.IsOut id) (hne : id ≠ other) : IsOut (roster.erase other) id where
  marked := List.mem_filter.mpr ⟨h.marked, by simpa using hne⟩
  only := fun found hm => h.only found (List.mem_filter.mp hm).1

/-- Taking out all jobs that wait leaves out who is out. -/
theorem IsOut.checkedOut (h : roster.IsOut id) : IsOut roster.checkedOut id where
  marked := List.mem_filter.mpr ⟨h.marked, rfl⟩
  only := fun found hm => h.only found (List.mem_filter.mp hm).1

/-- The mark is what is found under the id of a job that is out. -/
theorem IsOut.get? (h : roster.IsOut id) : roster.get? id = some .out := by
  suffices all : ∀ entries : List (String × Holding), (id, .out) ∈ entries →
      (∀ holding, (id, holding) ∈ entries → holding = .out) →
      Keyed.lookIn id entries = some .out from all roster.entries h.marked h.only
  intro entries
  induction entries with
  | nil => exact fun hm _ => absurd hm List.not_mem_nil
  | cons head rest ih =>
    obtain ⟨key, holding⟩ := head
    intro hm ho
    rw [Keyed.lookIn]
    split
    · next he => rw [ho holding (he ▸ List.mem_cons_self)]
    · next hne =>
      refine ih ?_ fun found hf => ho found (List.mem_cons_of_mem _ hf)
      exact (List.mem_cons.mp hm).resolve_left fun he => hne (Prod.mk.inj he).1

/-- The id of a job that is out is taken. -/
theorem IsOut.contains (h : roster.IsOut id) : roster.contains id = true := by
  rw [Keyed.contains, h.get?]
  rfl

/-- Nothing waits under the id of a job that is out. -/
theorem IsOut.heldUnder (h : roster.IsOut id) : roster.heldUnder id = none := by
  rw [Roster.heldUnder, h.get?]

/-- It is not one of the jobs that wait. -/
theorem IsOut.ne_of_mem_waiting (h : roster.IsOut id) {pair : String × Job}
    (hm : pair ∈ roster.waiting) : pair.1 ≠ id := by
  rintro rfl
  rw [waiting_eq] at hm
  obtain ⟨⟨key, holding⟩, he, hw⟩ := List.mem_filterMap.mp hm
  cases holding with
  | out => exact absurd hw (by simp [waitingOf])
  | held job =>
    obtain rfl := Option.some.inj hw
    exact absurd (h.only _ he) (by simp)

end Roster

/-- The event tells of the end of a job under an id with its connection, or of the
failure of its callback. -/
def Event.endsUnder (id : String) : Event → Bool
  | .notice (.ended other _ _) => other == id
  | .notice (.panicked other _) => other == id
  | _ => false

/-- None of the events tells of the end of a job under an id. -/
def ArePast (id : String) (events : List Event) : Prop :=
  ∀ event ∈ events, event.endsUnder id = false

section

variable {id : String}

/-- No events tell of nothing. -/
theorem arePast_nil : ArePast id [] := fun _ he => absurd he List.not_mem_nil

/-- Events after events that tell of no such end. -/
theorem ArePast.append {first second : List Event} (hf : ArePast id first)
    (hs : ArePast id second) : ArePast id (first ++ second) :=
  fun event he => (List.mem_append.mp he).elim (hf event) (hs event)

/-- One event is past if it tells of no such end. -/
theorem arePast_singleton {event : Event} (h : event.endsUnder id = false) :
    ArePast id [event] := by
  intro other he
  rwa [List.mem_singleton.mp he]

/-- What a callback tells is about no end of a job with its connection. -/
theorem arePast_announce (callback : Callback) (job : Job) (outcome : Outcome) :
    ArePast id (callback.announce job outcome) := by
  intro event he
  obtain ⟨_, rfl⟩ | ⟨_, rfl⟩ | rfl | ⟨_, rfl⟩ := mem_announce he <;> rfl

/-- Nor is a failure that is shown. -/
theorem arePast_shownEvents (frontEnd : FrontEnd) (job : Job) (outcome : Outcome) :
    ArePast id (shownEvents frontEnd job outcome) := by
  intro event he
  obtain ⟨_, rfl⟩ | ⟨_, rfl⟩ | ⟨_, rfl⟩ := mem_shownEvents he <;> rfl

/-- Nor is the end of a busy time. -/
theorem arePast_stop (frontEnd : FrontEnd) (origin : String) :
    ArePast id (frontEnd.stop origin) := by
  cases frontEnd with
  | editor => exact arePast_singleton rfl
  | log => exact arePast_nil

/-- The failure of a callback under another id is not the end of a job under this one. -/
theorem arePast_panicEvents {other : String} (h : other ≠ id) (panic : Option Panic) :
    ArePast id (panicEvents other panic) := by
  cases panic with
  | none => exact arePast_nil
  | some what => exact arePast_singleton (beq_false_of_ne h)

end

/-- What was done from one router to the next has passed the job by that is out under an
id: its place is still marked, and nothing was noted of its end. -/
structure Router.Passes (id : String) (before after : Router) : Prop where
  /-- The job is still out. -/
  out : after.roster.IsOut id
  /-- The front end is the same. -/
  frontEnd : after.frontEnd = before.frontEnd
  /-- The log has grown. -/
  log : ∃ events, after.log = before.log ++ events ∧ ArePast id events

namespace Router.Passes

variable {id : String} {before after last : Router}

/-- Where nothing was done, a job that is out was passed by. -/
theorem refl (h : before.roster.IsOut id) : Passes id before before :=
  ⟨h, rfl, [], (List.append_nil _).symm, arePast_nil⟩

/-- What is passed by twice is passed by. -/
theorem trans (first : Passes id before after) (second : Passes id after last) :
    Passes id before last := by
  obtain ⟨events, hl, he⟩ := first.log
  obtain ⟨more, hl', he'⟩ := second.log
  refine ⟨second.out, second.frontEnd.trans first.frontEnd, events ++ more, ?_, he.append he'⟩
  rw [hl', hl, List.append_assoc]

/-- More is noted that is not about the end of the job. -/
theorem note (h : Passes id before after) {events : List Event} (he : ArePast id events) :
    Passes id before (after.note events) :=
  h.trans ⟨h.out, rfl, events, rfl, he⟩

/-- The roster is changed elsewhere. -/
theorem reroster (h : Passes id before after) {roster : Roster} (ho : roster.IsOut id) :
    Passes id before { after with roster } :=
  ⟨ho, h.frontEnd, h.log⟩

/-- The end of a resolution under another id passes the job by. -/
theorem finish (h : Passes id before after) {other : String} (hne : other ≠ id) (job : Job)
    (outcome : Outcome) (panic : Option Panic) :
    Passes id before (after.finish other job outcome panic) := by
  have hlog := (arePast_panicEvents hne panic).append (arePast_stop after.frontEnd job.origin)
  rw [finish_eq]
  refine h.trans ⟨h.out.erase hne.symm, rfl, _, ?_, hlog⟩
  rw [← List.append_assoc]

/-- So does the end of a job under another id with its connection. -/
theorem release (h : Passes id before after) {other : String} (hne : other ≠ id) (job : Job)
    (word : Word) (panic : Option Panic) :
    Passes id before (((after.notePanic other panic).release job).tell job word) := by
  have hlog := (arePast_panicEvents hne panic).append (arePast_stop after.frontEnd job.origin)
  rw [notePanic_eq, release_eq, tell_eq]
  refine h.trans ⟨h.out, rfl, _, ?_, hlog⟩
  rw [← List.append_assoc]
  rfl

end Router.Passes

/-- The frame is not there to settle a registration under an id. -/
def Frame.Spares (id : String) (frame : Frame) : Prop := ∀ entry ∈ frame.due, entry.id ≠ id

/-- A frame that is due to settle nothing spares every id. -/
theorem Frame.spares_of_due {id : String} {frame : Frame} (h : frame.due = []) :
    frame.Spares id := fun _ he => absurd (h ▸ he) List.not_mem_nil

/-- A frame that is due to settle one registration spares all other ids. -/
theorem Frame.spares_of_due_singleton {id : String} {frame : Frame} {entry : Registration}
    (h : frame.due = [entry]) (hne : entry.id ≠ id) : frame.Spares id := by
  intro other ho
  rw [h, List.mem_singleton] at ho
  rwa [ho]

/-- A frame on top of a stack is new, the others were there. -/
theorem Frame.spares_cons {id : String} {top frame : Frame} {stack : List Frame}
    (h : top.Spares id) (hf : frame ∈ top :: stack) : frame ∈ stack ∨ frame.Spares id := by
  rcases List.mem_cons.mp hf with rfl | hf
  · exact .inr h
  · exact .inl hf

/-- The commands of a callback are not there to settle a registration. -/
theorem Frame.spares_frames {id : String} {callback : Callback} {frame : Frame}
    (h : frame ∈ callback.frames) : frame.Spares id :=
  spares_of_due (List.flatMap_eq_nil_iff.mp (due_frames callback) frame h)

namespace Machine

variable {machine : Machine} {id : String}

/-- A job is out, and nothing that is still to be done is due to settle a registration
under its id. -/
structure Guards (machine : Machine) (id : String) : Prop where
  /-- The job is out. -/
  out : machine.router.roster.IsOut id
  /-- What is due is registered under other ids. -/
  spared : ∀ frame ∈ machine.stack, frame.Spares id

/-- From one machine to the next the job is guarded and passed by. -/
structure Keeps (id : String) (before after : Machine) : Prop where
  /-- The next machine guards it. -/
  guards : after.Guards id
  /-- The router has passed it by. -/
  passes : before.router.Passes id after.router

/-- A machine that does nothing keeps guarding. -/
theorem Guards.refl (h : machine.Guards id) : Keeps id machine machine := ⟨h, .refl h.out⟩

/-- What is kept over two stretches is kept over both. -/
theorem Keeps.trans {first second third : Machine} (h : Keeps id first second)
    (h' : Keeps id second third) : Keeps id first third :=
  ⟨h'.guards, h.passes.trans h'.passes⟩

/-- Frames may go, and frames that are due for others may come. -/
theorem Guards.keeps (h : machine.Guards id) {next : Machine}
    (hpasses : machine.router.Passes id next.router)
    (hstack : ∀ frame ∈ next.stack, frame ∈ machine.stack ∨ frame.Spares id) :
    Keeps id machine next :=
  ⟨⟨hpasses.out, fun frame hf => (hstack frame hf).elim (h.spared frame) fun hs => hs⟩, hpasses⟩

/-- The callback of another job is started. -/
theorem Guards.start (h : machine.Guards id) (entry : Registration) (outcome : Outcome) :
    Keeps id machine (machine.start entry outcome) := by
  refine h.keeps ((Router.Passes.refl h.out).note (arePast_announce _ _ _)) fun frame hf => ?_
  rcases List.mem_append.mp hf with hf | hf
  · exact .inr (Frame.spares_frames hf)
  · exact .inl hf

/-- A response under another id is routed. -/
theorem Guards.resolve (h : machine.Guards id) {response : Response}
    (hne : response.requestId ≠ id) (job : Job) :
    Keeps id machine (machine.resolve response job) := by
  have hpasses := ((Router.Passes.refl h.out).reroster (h.out.put hne.symm .out)).note
    (arePast_shownEvents machine.router.frontEnd job response.outcome)
  let finish : Frame :=
    .finish ((machine.entryOf response.requestId job).start response.outcome) response.outcome
  have hfinish : finish.Spares id := Frame.spares_of_due_singleton rfl hne
  rw [Machine.resolve, Router.showFailure_eq]
  have hchecked : Keeps id machine
      { machine with
        router := Router.note
          { machine.router with roster := machine.router.roster.put response.requestId .out }
          (shownEvents machine.router.frontEnd job response.outcome)
        stack := finish :: machine.stack } :=
    h.keeps hpasses fun _ hf => Frame.spares_cons hfinish hf
  exact hchecked.trans (hchecked.guards.start _ _)

/-- The jobs that wait are taken out of the roster. -/
theorem Guards.takeAll (h : machine.Guards id) (policy : Policy) :
    Keeps id machine (machine.takeAll policy) := by
  refine h.keeps ((Router.Passes.refl h.out).reroster h.out.checkedOut) fun frame hf =>
    Frame.spares_cons (fun entry he => ?_) hf
  obtain ⟨pair, hp, rfl⟩ := List.mem_map.mp he
  exact h.out.ne_of_mem_waiting hp

/-- A command that is given leaves a job alone that is out. -/
theorem Guards.give (h : machine.Guards id) (command : Command) :
    Keeps id machine (machine.give command) := by
  have hsame : ∀ files, machine.router.Passes id { machine.router with files } := fun _ =>
    ⟨h.out, rfl, [], (List.append_nil _).symm, arePast_nil⟩
  cases command with
  | enter other job =>
    rw [Machine.give]
    split
    · exact h.keeps (hsame _) fun _ hf => .inl hf
    · next hc =>
      -- The id is taken, so that the registration is one under another id.
      have hne : id ≠ other := fun he => hc (he ▸ h.out.contains)
      exact h.keeps ((hsame _).reroster (h.out.put hne (.held job))) fun _ hf => .inl hf
  | route response =>
    rw [Machine.give]
    cases hh : machine.router.roster.heldUnder response.requestId with
    | some job =>
      have hne : response.requestId ≠ id := by
        intro he
        rw [he, h.out.heldUnder] at hh
        exact absurd hh (by simp)
      exact h.resolve hne job
    | none =>
      exact h.keeps ((Router.Passes.refl h.out).note (arePast_singleton rfl)) fun _ hf => .inl hf
  | endAll policy => exact h.takeAll policy
  | describe job => exact h.keeps (hsame _) fun _ hf => .inl hf
  | deleteFile path => exact h.keeps (hsame _) fun _ hf => .inl hf
  | contains other => exact h.refl
  | size => exact h.refl
  | summary => exact h.refl

/-- The end of another job of a connection that went away is noted, and its callback is
started. -/
theorem Guards.dismissOne (h : machine.Guards id) (policy : Policy) {entry : Registration}
    (hne : entry.id ≠ id) : Keeps id machine (machine.dismissOne policy entry) := by
  have hpast : ArePast id [.notice (.ended entry.id entry.job.origin policy)] :=
    arePast_singleton (beq_false_of_ne hne)
  have hnoted : ∀ left : Registration, left.id = entry.id → Keeps id machine
      { machine with
        router := machine.router.note [.notice (.ended entry.id entry.job.origin policy)]
        stack := .release policy left :: machine.stack } := fun left hl =>
    h.keeps ((Router.Passes.refl h.out).note hpast) fun _ hf =>
      Frame.spares_cons (Frame.spares_of_due_singleton rfl (hl ▸ hne)) hf
  cases policy with
  | abandon => exact hnoted entry rfl
  | fail =>
    have hreleased := hnoted (entry.start (.failure Router.connectionLost)) rfl
    exact hreleased.trans (hreleased.guards.start _ _)

/-- Something on top of the stack is done with. -/
theorem Guards.pop (h : machine.Guards id) {frame : Frame} {rest : List Frame}
    (hs : machine.stack = frame :: rest) (top : List Frame)
    (ht : ∀ other ∈ top, other.Spares id) :
    Keeps id machine { machine with stack := top ++ rest } := by
  refine h.keeps (.refl h.out) fun other ho => ?_
  rcases List.mem_append.mp ho with ho | ho
  · exact .inr (ht other ho)
  · exact .inl (hs ▸ List.mem_cons_of_mem _ ho)

/-- Every step leaves a job alone that is out. -/
theorem Guards.step (h : machine.Guards id) : Keeps id machine machine.step := by
  have hnone : ∀ other ∈ ([] : List Frame), other.Spares id := fun _ ho =>
    absurd ho List.not_mem_nil
  rw [Machine.step]
  split
  · exact h.refl
  · next hs => exact h.pop hs [] hnone
  · next command others rest hs =>
    have hp := h.pop hs [.queue others] (by simp [Frame.Spares, Frame.due])
    exact hp.trans (hp.guards.give command)
  · next hs => exact h.pop hs [] hnone
  · next command others rest hs =>
    have hp := h.pop hs [.report (machine.router.replyTo command), .program others]
      (by simp [Frame.Spares, Frame.due])
    exact hp.trans (hp.guards.give command)
  · next reply rest hs =>
    have hp := h.pop hs [] hnone
    exact ⟨⟨h.out, hp.guards.spared⟩, hp.passes.note (arePast_singleton rfl)⟩
  · next entry outcome rest hs =>
    have hne : entry.id ≠ id := h.spared _ (hs ▸ List.mem_cons_self) entry List.mem_cons_self
    have hp := (h.pop hs [] hnone).passes.finish hne entry.job outcome
      (entry.job.callback outcome).panic?
    exact h.keeps hp fun other ho => .inl (hs ▸ List.mem_cons_of_mem _ ho)
  · next hs => exact h.pop hs [] hnone
  · next policy entry others rest hs =>
    have hdue := h.spared _ (hs ▸ List.mem_cons_self)
    have hp := h.pop hs [.dismiss policy others] fun other ho => by
      rw [List.mem_singleton.mp ho]
      exact fun left hl => hdue left (List.mem_cons_of_mem _ hl)
    exact hp.trans (hp.guards.dismissOne policy (hdue entry List.mem_cons_self))
  · next policy entry rest hs =>
    have hne : entry.id ≠ id := h.spared _ (hs ▸ List.mem_cons_self) entry List.mem_cons_self
    have hp := (h.pop hs [] hnone).passes.release hne entry.job (Router.lastWord policy)
      (policy.panic? entry.job)
    exact h.keeps hp fun other ho => .inl (hs ▸ List.mem_cons_of_mem _ ho)

/-- So does any number of steps. -/
theorem Guards.after (h : machine.Guards id) (count : Nat) :
    Keeps id machine (machine.after count) := by
  induction count generalizing machine with
  | zero => exact h.refl
  | succ count ih => exact h.step.trans (ih h.step.guards)

end Machine

namespace Router

variable {router : Router} {id : String}

/-- With the end of its resolution an id is free. -/
theorem not_mem_ids_finish (router : Router) (id : String) (job : Job) (outcome : Outcome)
    (panic : Option Panic) : id ∉ (router.finish id job outcome panic).ids := by
  intro hm
  rw [finish_eq] at hm
  obtain ⟨holding, hg⟩ := Keyed.mem_keys_iff.mp hm
  exact absurd hg (by simp)

/-- The router that runs the callback of a job: the job is out, and a failure has been
shown. -/
def handOut (router : Router) (id : String) (job : Job) (outcome : Outcome) : Router :=
  showFailure { router with roster := router.roster.put id .out } job outcome

/-- A job that is handed out to its callback is out. -/
theorem isOut_handOut (router : Router) (id : String) (job : Job) (outcome : Outcome) :
    (router.handOut id job outcome).roster.IsOut id := by
  rw [handOut, showFailure_eq]
  exact Roster.isOut_put router.roster id

/-- A response hands out a job, calls it and ends its resolution. -/
theorem perform_route_eq_finish {job : Job} (outcome : Outcome)
    (held : router.roster.heldUnder id = some job) :
    router.perform (.route ⟨id, outcome⟩)
      = (((router.handOut id job outcome).call job outcome (job.callback outcome)).1.finish id job
          outcome (job.callback outcome).panic?, .done) := by
  rw [perform_route, Roster.checkOut_eq, held]
  simp only [Option.map_some, call_snd]
  rfl

/-- A machine that has nothing to do. -/
def still (router : Router) : Machine := ⟨router, [], fun _ => 0, []⟩

/-- A machine with nothing to do guards every job that is out. -/
theorem guards_still (h : router.roster.IsOut id) : router.still.Guards id :=
  ⟨h, fun _ hf => absurd hf List.not_mem_nil⟩

/-- A command, with all that the callbacks command that it starts, passes a job by that is
out. -/
theorem passes_perform (h : router.roster.IsOut id) (command : Command) :
    router.Passes id (router.perform command).1 := by
  have hg := (guards_still h).give command
  obtain ⟨count, hr, -⟩ := router.still.comes_give command
  exact hr ▸ (hg.trans (hg.guards.after count)).passes

/-- So does a program. -/
theorem passes_performAll (h : router.roster.IsOut id) (program : List Command) :
    router.Passes id (router.performAll program) := by
  induction program generalizing router with
  | nil =>
    rw [performAll_nil]
    exact .refl h
  | cons command rest ih =>
    have hreported : ArePast id
        [.nested (router.perform command).2 (router.perform command).1.ids] :=
      arePast_singleton rfl
    have hone := (passes_perform h command).note hreported
    rw [performAll_cons]
    exact hone.trans (ih hone.out)

end Router

namespace Machine

/-- The machine with more to do, below all that is on its stack. -/
def atop (machine : Machine) (base : List Frame) : Machine :=
  { machine with stack := machine.stack ++ base }

/-- A resolution does not look below the top of the stack. -/
theorem resolve_atop (machine : Machine) (response : Response) (job : Job) (base : List Frame) :
    (machine.atop base).resolve response job = (machine.resolve response job).atop base := by
  simp only [resolve, start, atop, entryOf, List.append_assoc, List.cons_append]

/-- Nor does the beginning of a command. -/
theorem give_atop (machine : Machine) (command : Command) (base : List Frame) :
    (machine.atop base).give command = (machine.give command).atop base := by
  have hrouter : (machine.atop base).router = machine.router := rfl
  cases command with
  | enter id job =>
    rw [give, give, hrouter]
    split <;> rfl
  | route response =>
    rw [give, give, hrouter]
    split
    · exact resolve_atop machine response _ base
    · rfl
  | endAll policy => rfl
  | describe job => rfl
  | deleteFile path => rfl
  | contains id => rfl
  | size => rfl
  | summary => rfl

/-- Nor does the end of a job with its connection. -/
theorem dismissOne_atop (machine : Machine) (policy : Policy) (entry : Registration)
    (base : List Frame) :
    (machine.atop base).dismissOne policy entry = (machine.dismissOne policy entry).atop base := by
  cases policy with
  | abandon => rfl
  | fail => simp only [dismissOne, start, atop, List.append_assoc, List.cons_append]

/-- As long as there is something to do above, a step does not look at what is below. -/
theorem step_atop {machine : Machine} (h : machine.stack ≠ []) (base : List Frame) :
    (machine.atop base).step = machine.step.atop base := by
  obtain ⟨router, book, numbers, stack⟩ := machine
  match stack with
  | [] => exact absurd rfl h
  | .queue [] :: rest => rfl
  | .queue (command :: others) :: rest =>
    exact give_atop ⟨router, book, numbers, .queue others :: rest⟩ command base
  | .program [] :: rest => rfl
  | .program (command :: others) :: rest =>
    exact give_atop
      ⟨router, book, numbers, .report (router.replyTo command) :: .program others :: rest⟩
      command base
  | .report reply :: rest => rfl
  | .finish entry outcome :: rest => rfl
  | .dismiss policy [] :: rest => rfl
  | .dismiss policy (entry :: others) :: rest =>
    exact dismissOne_atop ⟨router, book, numbers, .dismiss policy others :: rest⟩ policy entry base
  | .release policy entry :: rest => rfl

/-- A machine with nothing left to do stays as it is. -/
theorem after_of_stack_nil {machine : Machine} (h : machine.stack = []) (count : Nat) :
    machine.after count = machine := by
  have hs : machine.step = machine := by rw [step, h]
  induction count with
  | zero => rfl
  | succ count ih => rw [after, hs, ih]

/-- A machine that comes to an end goes through the same states above another stack, up to
the moment at which nothing is left above it. -/
theorem Comes.lockstep {machine : Machine} {router : Router} (h : machine.Comes router [])
    (base : List Frame) :
    ∃ last, (machine.after last).router = router ∧ (machine.after last).stack = [] ∧
      (∀ now < last, (machine.after now).stack ≠ []) ∧
      ∀ now ≤ last, (machine.atop base).after now = (machine.after now).atop base := by
  obtain ⟨count, hr, hs⟩ := h
  induction count generalizing machine with
  | zero =>
    refine ⟨0, hr, hs, fun now hn => absurd hn (Nat.not_lt_zero now), fun now hn => ?_⟩
    rw [Nat.le_zero.mp hn]
    rfl
  | succ count ih =>
    by_cases he : machine.stack = []
    · rw [after_of_stack_nil he] at hr hs
      refine ⟨0, hr, hs, fun now hn => absurd hn (Nat.not_lt_zero now), fun now hn => ?_⟩
      rw [Nat.le_zero.mp hn]
      rfl
    · obtain ⟨last, hr', hs', hbusy, hlock⟩ := ih hr hs
      refine ⟨last + 1, hr', hs', fun now hn => ?_, fun now hn => ?_⟩
      · cases now with
        | zero => exact he
        | succ now => exact hbusy now (Nat.lt_of_succ_lt_succ hn)
      · cases now with
        | zero => rfl
        | succ now =>
          rw [after, step_atop he]
          exact hlock now (Nat.le_of_succ_le_succ hn)

end Machine

/-- Whatever command comes now, the job that is out under an id stays out of reach. -/
structure Router.Shields (router : Router) (id : String) : Prop where
  /-- The id is registered. -/
  registered : id ∈ router.ids ∧ router.perform (.contains id) = (router, .truth true)
  /-- A registration under the id is refused. All that is done is done before: the files of
  the new job are put in place when it is made. -/
  enter (job : Job) :
    router.perform (.enter id job) = (router.layFiles job, .refused (.idTaken id))
  /-- A response under the id is refused, with a line in the log and nothing else. -/
  route (outcome : Outcome) :
    router.perform (.route ⟨id, outcome⟩)
      = (router.note [.notice (.unknownResponse id)], .refused (.idUnknown id))
  /-- When the connection goes away, the jobs that wait are counted and ended, and the id is
  not among them. -/
  endAll (policy : Policy) :
    router.perform (.endAll policy)
      = (Router.endAll { router with roster := router.roster.checkedOut } policy
          router.roster.waiting, .count router.roster.waiting.length) ∧
      ∀ pair ∈ router.roster.waiting, pair.1 ≠ id
  /-- No command, with all that it sets off, frees the id or ends the job. -/
  stays (command : Command) : router.Passes id (router.perform command).1

/-- A job that is out is out of reach for every command. -/
theorem Roster.IsOut.shields {router : Router} {id : String} (h : router.roster.IsOut id) :
    router.Shields id where
  registered := by
    refine ⟨Keyed.mem_keys_iff.mpr ⟨.out, h.get?⟩, ?_⟩
    simp [Router.perform, Router.performWithin, h.contains]
  enter := by
    intro job
    rw [Router.perform_enter, Roster.enter?, h.contains]
    rfl
  route := fun _ => Router.perform_route_of_none h.heldUnder
  endAll := fun policy => ⟨Router.perform_endAll router policy, fun _ => h.ne_of_mem_waiting⟩
  stays := Router.passes_perform h

namespace Machine

/-- A job is handed out and its callback started, and there is nothing else to do. -/
def callbackAlone (machine : Machine) (id : String) (job : Job) (outcome : Outcome) : Machine :=
  start { machine with router := machine.router.handOut id job outcome, stack := [] }
    (machine.entryOf id job) outcome

/-- A resolution is a callback above the rest of the resolution. -/
theorem resolve_eq (machine : Machine) (id : String) (job : Job) (outcome : Outcome) :
    machine.resolve ⟨id, outcome⟩ job
      = (machine.callbackAlone id job outcome).atop
          (.finish ((machine.entryOf id job).start outcome) outcome :: machine.stack) := by
  simp only [resolve, callbackAlone, Router.handOut, start, atop, entryOf, List.append_nil]

/-- While its callback runs, the job is guarded. -/
theorem guards_callbackAlone (machine : Machine) (id : String) (job : Job) (outcome : Outcome) :
    (machine.callbackAlone id job outcome).Guards id :=
  (Guards.start
    ⟨machine.router.isOut_handOut id job outcome, fun _ hf => absurd hf List.not_mem_nil⟩ _
    outcome).guards

/-- Alone, the callback comes to an end. -/
theorem comes_callbackAlone (machine : Machine) (id : String) (job : Job) (outcome : Outcome) :
    (machine.callbackAlone id job outcome).Comes
      ((machine.router.handOut id job outcome).call job outcome (job.callback outcome)).1 [] :=
  comes_start (runsPrograms _)
    { machine with router := machine.router.handOut id job outcome, stack := [] }
    (machine.entryOf id job) outcome (Nat.le_refl _)

/-- Behind the callback, one step ends the resolution and frees the id. -/
theorem perform_route_eq_step {machine : Machine} (now : Machine) {id : String} {job : Job}
    {outcome : Outcome} (held : machine.router.roster.heldUnder id = some job)
    (hr : now.router
      = ((machine.router.handOut id job outcome).call job outcome (job.callback outcome)).1)
    (hs : now.stack = .finish ((machine.entryOf id job).start outcome) outcome :: machine.stack) :
    machine.router.perform (.route ⟨id, outcome⟩) = (now.step.router, .done) ∧
      now.step.stack = machine.stack ∧ id ∉ now.step.router.ids := by
  rw [Router.perform_route_eq_finish outcome held, step, hs, ← hr]
  exact ⟨rfl, rfl, Router.not_mem_ids_finish now.router id job outcome _⟩

/-- As long as the callback of a job runs, with all that it commands and all that this sets
off, the job stays out of reach: the rest of its resolution lies untouched on the stack, it is
not settled and no second callback is started for it. Then its resolution ends, and with it
the registration. -/
theorem shields_until_finished (machine : Machine) (id : String) (outcome : Outcome) {job : Job}
    (held : machine.router.roster.heldUnder id = some job) :
    let begun := machine.give (.route ⟨id, outcome⟩)
    let entry := (machine.entryOf id job).start outcome
    let below : List Frame := .finish entry outcome :: machine.stack
    begun.stack = (job.callback outcome).frames ++ below ∧
      ∃ last,
        (∀ now ≤ last,
          (begun.after now).router.Shields id ∧
          (∃ above, (begun.after now).stack = above ++ below ∧ (above = [] ↔ now = last)) ∧
          (machine.Sound → entry ∈ (begun.after now).book)) ∧
        (begun.after (last + 1)).stack = machine.stack ∧
        machine.router.perform (.route ⟨id, outcome⟩)
          = ((begun.after (last + 1)).router, .done) ∧
        id ∉ (begun.after (last + 1)).router.ids := by
  intro begun entry below
  let callback := machine.callbackAlone id job outcome
  have hbegun : begun = callback.atop below := by
    have hgive : begun = machine.resolve ⟨id, outcome⟩ job := by
      simp only [begun, give, held]
    rw [hgive, resolve_eq]
  obtain ⟨last, hr, hs, hbusy, hlock⟩ :=
    (comes_callbackAlone machine id job outcome).lockstep below
  have hafter : ∀ now ≤ last, begun.after now = (callback.after now).atop below := fun now hn => by
    rw [hbegun]
    exact hlock now hn
  have hend : (begun.after last).stack = below := by
    rw [hafter last (Nat.le_refl _), atop]
    exact congrArg (· ++ below) hs
  obtain ⟨hperform, hstack, hfree⟩ := perform_route_eq_step (begun.after last) held
    (by rw [hafter last (Nat.le_refl _)]; exact hr) hend
  have hnext : (begun.after last).step = begun.after (last + 1) := (after_add begun last 1).symm
  rw [hnext] at hperform hstack hfree
  refine ⟨?_, last, fun now hn => ⟨?_, ⟨(callback.after now).stack, ?_, ?_⟩, fun hsound => ?_⟩,
    hstack, hperform, hfree⟩
  · rw [hbegun]
    exact congrArg (· ++ below) (List.append_nil _)
  · rw [hafter now hn]
    exact ((guards_callbackAlone machine id job outcome).after now).guards.out.shields
  · rw [hafter now hn]
    rfl
  · constructor
    · intro hnil
      exact Nat.le_antisymm hn (Nat.le_of_not_lt fun hlt => hbusy now hlt hnil)
    · rintro rfl
      exact hs
  · have hdue : entry ∈ (begun.after now).due := by
      rw [due, hafter now hn, atop, List.flatMap_append]
      simp [below, Frame.due]
    have hnow := (hsound.give (.route ⟨id, outcome⟩)).after now
    exact (List.mem_filter.mp (hnow.due.mem_iff.mp hdue)).1

/-- A job whose callback registers its own id again, routes responses to itself and to another
job, and ends all jobs. -/
def meddler : Job :=
  { JobOf.plain "meddler" "main" "main" with
    onSuccess := .run [.enter "a" (.plain "other" "main" "main"), .route ⟨"a", .success none⟩,
      .route ⟨"b", .success none⟩, .endAll .fail] }

/-- A job whose callback routes a response to the first one. -/
def accomplice : Job :=
  { JobOf.plain "accomplice" "main" "main" with
    onSuccess := .run [.route ⟨"a", .failure ⟨"late", []⟩⟩, .contains "a"] }

/-- Both jobs wait, and the first one gets its response. -/
theorem shields_meddler :
    let machine := (idle .editor [.enter "a" meddler, .enter "b" accomplice]).after 2
    let begun := machine.give (.route ⟨"a", .success none⟩)
    machine.router.roster.heldUnder "a" = some meddler ∧
      ∃ last,
        (∀ now ≤ last, (begun.after now).router.Shields "a" ∧
          (machine.entryOf "a" meddler).start (.success none) ∈ (begun.after now).book) ∧
        "a" ∉ (begun.after (last + 1)).router.ids := by
  intro machine begun
  have held : machine.router.roster.heldUnder "a" = some meddler := rfl
  obtain ⟨-, last, hnow, -, -, hfree⟩ := shields_until_finished machine "a" (.success none) held
  have hsound : machine.Sound := (sound_idle _ _).after 2
  exact ⟨held, last, fun now hn => ⟨(hnow now hn).1, (hnow now hn).2.2 hsound⟩, hfree⟩

end Machine

end Routing

end ReplLink
