import ReplLink.Proofs.Routing.Ledger

/-!
# Callers who wait come from outside

A caller who waits for a job has left its number there. Callbacks wait for nothing:
the jobs that they register, and those that the callbacks of these jobs register,
have no number. Of all that a router does by itself this is kept, so it can be said
of a router once, between two commands.
-/

namespace ReplLink.Routing

/-- The jobs that the callbacks of the job register, and those that theirs register,
have nobody who waits. -/
inductive JobOf.AddsNoWaiter : Job → Prop
  /-- Each job that a callback registers is such a job too. -/
  | intro {job : Job}
    (alone : ∀ outcome program, job.callback outcome = .run program →
      ∀ id other, Command.enter id other ∈ program → other.waiter = none)
    (registered : ∀ outcome program, job.callback outcome = .run program →
      ∀ id other, Command.enter id other ∈ program → AddsNoWaiter other) : AddsNoWaiter job

/-- Neither the job that the command registers nor those of its callbacks have
anybody who waits. -/
def Command.AddsNoWaiter : Command → Prop
  | .enter _ job => job.waiter = none ∧ job.AddsNoWaiter
  | _ => True

/-- The commands that a callback of such a job gives. -/
theorem JobOf.AddsNoWaiter.program {job : Job} (h : job.AddsNoWaiter) {outcome : Outcome}
    {program : List Command} (hc : job.callback outcome = .run program) {command : Command}
    (hm : command ∈ program) : command.AddsNoWaiter := by
  cases h with
  | intro alone registered =>
    cases command with
    | enter id other =>
      exact ⟨alone outcome program hc id other hm, registered outcome program hc id other hm⟩
    | _ => trivial

/-- Only the callbacks of a job matter. -/
theorem JobOf.AddsNoWaiter.congr {job other : Job} (h : job.AddsNoWaiter)
    (hs : other.onSuccess = job.onSuccess) (hf : other.onFailure = job.onFailure) :
    other.AddsNoWaiter := by
  have hcallback (outcome : Outcome) : other.callback outcome = job.callback outcome := by
    cases outcome with
    | success value => exact hs
    | failure failure => exact hf
  exact .intro
    (fun outcome program hc id _ hm => (h.program ((hcallback outcome).symm.trans hc) hm).1)
    fun outcome program hc id _ hm => (h.program ((hcallback outcome).symm.trans hc) hm).2

/-- Callbacks that give no commands register nothing. -/
theorem JobOf.IsPassive.addsNoWaiter {job : Job} (h : job.IsPassive) : job.AddsNoWaiter := by
  have hnone (outcome : Outcome) (program : List Command) :
      job.callback outcome ≠ .run program := by
    intro hc
    have hpassive := h.callback outcome
    rw [hc] at hpassive
    exact absurd hpassive (by simp [Callback.isPassive])
  exact .intro (fun outcome program hc => absurd hc (hnone outcome program))
    fun outcome program hc => absurd hc (hnone outcome program)

/-- The frame adds nobody who waits. -/
def Frame.AddsNoWaiter : Frame → Prop
  | .queue commands => ∀ command ∈ commands, command.AddsNoWaiter
  | .program commands => ∀ command ∈ commands, command.AddsNoWaiter
  | .dismiss _ entries => ∀ entry ∈ entries, entry.job.AddsNoWaiter
  | _ => True

/-- Each id is registered once, and no callback of the jobs that wait adds anybody
who waits. -/
structure Roster.AddsNoWaiter (roster : Roster) : Prop where
  /-- Each id is registered once. -/
  apart : roster.keys.Nodup
  /-- The callbacks of the jobs add nobody. -/
  held : ∀ id job, roster.heldUnder id = some job → job.AddsNoWaiter

/-- Roster and stack of a machine agree, and nothing in them adds anybody who waits. -/
structure Machine.AddsNoWaiter (machine : Machine) : Prop where
  /-- The roster adds nobody. -/
  roster : machine.router.roster.AddsNoWaiter
  /-- The ids that are out are being resolved. -/
  out : machine.router.roster.outIds.Perm (machine.stack.flatMap Frame.resolving)
  /-- The frames add nobody. -/
  frames : ∀ frame ∈ machine.stack, frame.AddsNoWaiter

section Closed

namespace Roster

variable {roster : Roster} {id : String}

theorem AddsNoWaiter.put_held (h : roster.AddsNoWaiter) {job : Job} (hj : job.AddsNoWaiter) :
    AddsNoWaiter (roster.put id (.held job)) where
  apart := Keyed.nodup_keys_put h.apart id _
  held other found hf := by
    rcases heldUnder_put hf with ⟨-, rfl⟩ | hf
    · exact hj
    · exact h.held other found hf

theorem AddsNoWaiter.put_out (h : roster.AddsNoWaiter) : AddsNoWaiter (roster.put id .out) where
  apart := Keyed.nodup_keys_put h.apart id _
  held other found hf := by
    by_cases ho : other = id
    · rw [ho, heldUnder, Keyed.get?_put_self] at hf
      exact absurd hf (by simp)
    · rw [heldUnder, Keyed.get?_put_of_ne _ _ ho] at hf
      exact h.held other found hf

theorem AddsNoWaiter.erase (h : roster.AddsNoWaiter) : AddsNoWaiter (roster.erase id) where
  apart := Keyed.nodup_keys_erase h.apart id
  held other found hf := h.held other found (heldUnder_of_erase hf).2

theorem AddsNoWaiter.checkedOut (h : roster.AddsNoWaiter) :
    Roster.AddsNoWaiter roster.checkedOut where
  apart := nodup_keys_checkedOut h.apart
  held other found hf := by
    rw [← mem_waiting_iff (nodup_keys_checkedOut h.apart), waiting_checkedOut] at hf
    exact absurd hf List.not_mem_nil

theorem AddsNoWaiter.of_mem_waiting (h : roster.AddsNoWaiter) {job : Job}
    (hm : (id, job) ∈ roster.waiting) : job.AddsNoWaiter :=
  h.held id job ((mem_waiting_iff h.apart).mp hm)

end Roster

namespace Machine

variable {machine : Machine}

/-- The frames of a callback come from the job. -/
theorem addsNoWaiter_frames {job : Job} (h : job.AddsNoWaiter) (outcome : Outcome) :
    ∀ frame ∈ (job.callback outcome).frames, frame.AddsNoWaiter := by
  intro frame hf
  cases hc : job.callback outcome with
  | run program =>
    rw [hc] at hf
    rw [List.mem_singleton.mp hf]
    exact fun command hm => h.program hc hm
  | _ =>
    rw [hc] at hf
    exact absurd hf List.not_mem_nil

/-- A callback is started. -/
theorem AddsNoWaiter.start (h : machine.AddsNoWaiter) {entry : Registration}
    (he : entry.job.AddsNoWaiter) (outcome : Outcome) :
    (machine.start entry outcome).AddsNoWaiter where
  roster := h.roster
  out := by
    rw [Machine.start, List.flatMap_append, Frame.resolving_frames]
    exact h.out
  frames frame hf := by
    rcases List.mem_append.mp hf with hf | hf
    · exact addsNoWaiter_frames he outcome frame hf
    · exact h.frames frame hf

/-- A response takes a job out. -/
theorem AddsNoWaiter.resolve (h : machine.AddsNoWaiter) {response : Response} {job : Job}
    (hh : machine.router.roster.heldUnder response.requestId = some job) :
    (machine.resolve response job).AddsNoWaiter := by
  rw [Machine.resolve, Router.showFailure_eq]
  refine AddsNoWaiter.start ⟨h.roster.put_out, ?_, fun frame hf => ?_⟩ (h.roster.held _ job hh) _
  · exact (Roster.outIds_checkOut h.roster.apart hh).trans (h.out.cons _)
  · rcases List.mem_cons.mp hf with rfl | hf
    · trivial
    · exact h.frames frame hf

/-- All that wait are taken out. -/
theorem AddsNoWaiter.takeAll (h : machine.AddsNoWaiter) (policy : Policy) :
    (machine.takeAll policy).AddsNoWaiter where
  roster := h.roster.checkedOut
  out := by
    have hout := h.out
    rw [← Roster.outIds_checkedOut] at hout
    exact hout
  frames frame hf := by
    rcases List.mem_cons.mp hf with rfl | hf
    · intro entry he
      obtain ⟨⟨id, job⟩, hw, rfl⟩ := List.mem_map.mp he
      exact h.roster.of_mem_waiting hw
    · exact h.frames frame hf

/-- Beginning with a command adds nobody. -/
theorem AddsNoWaiter.give (h : machine.AddsNoWaiter) {command : Command}
    (hc : command.AddsNoWaiter) : (machine.give command).AddsNoWaiter := by
  cases command with
  | enter id job =>
    rw [Machine.give]
    split
    · exact ⟨h.roster, h.out, h.frames⟩
    · next hcontains =>
      have hnone : machine.router.roster.get? id = none := by
        rw [Keyed.contains] at hcontains
        exact Option.isNone_iff_eq_none.mp (by simpa using hcontains)
      exact ⟨h.roster.put_held hc.2, (Roster.outIds_enter hnone job).trans h.out, h.frames⟩
  | route response =>
    rw [Machine.give]
    cases hh : machine.router.roster.heldUnder response.requestId with
    | none => exact ⟨h.roster, h.out, h.frames⟩
    | some job => exact h.resolve hh
  | endAll policy => exact h.takeAll policy
  | describe job => exact ⟨h.roster, h.out, h.frames⟩
  | deleteFile path => exact ⟨h.roster, h.out, h.frames⟩
  | contains id => exact h
  | size => exact h
  | summary => exact h

/-- A frame comes off, and others that resolve the same come in its place. -/
theorem AddsNoWaiter.replace (h : machine.AddsNoWaiter) {frame : Frame} {rest : List Frame}
    (hs : machine.stack = frame :: rest) {next : Machine}
    (hr : next.router.roster = machine.router.roster) (others : List Frame)
    (hn : next.stack = others ++ rest) (ho : others.flatMap Frame.resolving = frame.resolving)
    (hf : ∀ other ∈ others, other.AddsNoWaiter) : next.AddsNoWaiter where
  roster := hr ▸ h.roster
  out := by
    have hout := h.out
    rw [hs, List.flatMap_cons, ← ho, ← List.flatMap_append] at hout
    rwa [hr, hn]
  frames other hm := by
    rw [hn] at hm
    rcases List.mem_append.mp hm with hm | hm
    · exact hf other hm
    · exact h.frames other (hs ▸ List.mem_cons_of_mem _ hm)

/-- The end of a resolution frees the id that it has marked. -/
theorem AddsNoWaiter.finish (h : machine.AddsNoWaiter) {entry : Registration} {outcome : Outcome}
    {rest : List Frame} (hs : machine.stack = .finish entry outcome :: rest) (panic : Option Panic)
    (book : Book) :
    Machine.AddsNoWaiter
      { machine with
        router := machine.router.finish entry.id entry.job outcome panic
        book, stack := rest } := by
  have hout := h.out
  rw [hs, List.flatMap_cons] at hout
  have hmarked : machine.router.roster.get? entry.id = some .out :=
    (Roster.mem_outIds_iff h.roster.apart).mp (hout.mem_iff.mpr List.mem_cons_self)
  rw [Router.finish_eq]
  refine ⟨h.roster.erase, ?_, fun frame hf => h.frames frame (hs ▸ List.mem_cons_of_mem _ hf)⟩
  exact ((Roster.outIds_free h.roster.apart hmarked).symm.trans hout).cons_inv

/-- The next job is dismissed. -/
theorem AddsNoWaiter.dismissOne (h : machine.AddsNoWaiter) {policy : Policy} {entry : Registration}
    {others : List Registration} {rest : List Frame}
    (hs : machine.stack = .dismiss policy (entry :: others) :: rest) :
    (Machine.dismissOne { machine with stack := .dismiss policy others :: rest } policy
      entry).AddsNoWaiter := by
  have hentries : ∀ other ∈ entry :: others, other.job.AddsNoWaiter :=
    h.frames (.dismiss policy (entry :: others)) (hs ▸ List.mem_cons_self)
  have hframes (left : Registration) :
      ∀ frame ∈ [Frame.release policy left, Frame.dismiss policy others], frame.AddsNoWaiter := by
    intro frame hf
    rcases List.mem_cons.mp hf with rfl | hf
    · trivial
    · rw [List.mem_singleton.mp hf]
      exact fun other ho => hentries other (List.mem_cons_of_mem _ ho)
  have hnext {next : Machine} (left : Registration)
      (hr : next.router.roster = machine.router.roster)
      (hn : next.stack = .release policy left :: .dismiss policy others :: rest) :
      next.AddsNoWaiter :=
    h.replace hs hr _ hn rfl (hframes left)
  cases policy with
  | abandon => exact hnext entry rfl rfl
  | fail =>
    rw [Machine.dismissOne]
    refine AddsNoWaiter.start ?_ (hentries entry List.mem_cons_self) _
    exact hnext (entry.start (.failure Router.connectionLost)) rfl rfl

/-- No step adds anybody who waits. -/
theorem AddsNoWaiter.step (h : machine.AddsNoWaiter) : machine.step.AddsNoWaiter := by
  have hnil (frame : Frame) (hf : frame ∈ ([] : List Frame)) : frame.AddsNoWaiter :=
    absurd hf List.not_mem_nil
  rw [Machine.step]
  split
  · exact h
  · next hs => exact h.replace hs rfl [] rfl rfl hnil
  · next command others rest hs =>
    have hcommands : ∀ command' ∈ command :: others, command'.AddsNoWaiter :=
      h.frames (.queue (command :: others)) (hs ▸ List.mem_cons_self)
    refine AddsNoWaiter.give ?_ (hcommands command List.mem_cons_self)
    refine h.replace hs rfl [.queue others] rfl rfl fun frame hf => ?_
    rw [List.mem_singleton.mp hf]
    exact fun other ho => hcommands other (List.mem_cons_of_mem _ ho)
  · next hs => exact h.replace hs rfl [] rfl rfl hnil
  · next command others rest hs =>
    have hcommands : ∀ command' ∈ command :: others, command'.AddsNoWaiter :=
      h.frames (.program (command :: others)) (hs ▸ List.mem_cons_self)
    refine AddsNoWaiter.give ?_ (hcommands command List.mem_cons_self)
    refine h.replace hs rfl [.report (machine.router.replyTo command), .program others] rfl rfl
      fun frame hf => ?_
    rcases List.mem_cons.mp hf with rfl | hf
    · trivial
    · rw [List.mem_singleton.mp hf]
      exact fun other ho => hcommands other (List.mem_cons_of_mem _ ho)
  · next hs => exact h.replace hs rfl [] rfl rfl hnil
  · next hs => exact h.finish hs _ _
  · next hs => exact h.replace hs rfl [] rfl rfl hnil
  · next hs => exact h.dismissOne hs
  · next policy entry rest hs =>
    refine h.replace hs ?_ [] rfl rfl hnil
    rw [Router.notePanic_eq, Router.release_eq, Router.tell_eq]
    rfl

/-- Neither does any number of steps. -/
theorem AddsNoWaiter.after (h : machine.AddsNoWaiter) (count : Nat) :
    (machine.after count).AddsNoWaiter := by
  induction count generalizing machine with
  | zero => exact h
  | succ count ih => exact ih h.step

end Machine

end Closed

namespace Machine

/-- A machine that has one command to carry out. -/
def carrying (router : Router) (command : Command) : Machine :=
  ⟨router, [], fun _ => 0, [.queue [command]]⟩

/-- With nothing to do the machine stands still. -/
theorem after_of_stack {machine : Machine} (h : machine.stack = []) (count : Nat) :
    machine.after count = machine := by
  induction count with
  | zero => rfl
  | succ count ih => rw [after, step, h, ih]

/-- The machine stands still in one state only. -/
theorem router_of_comes {machine : Machine} {first second : Router}
    (h : machine.Comes first []) (h' : machine.Comes second []) : first = second := by
  obtain ⟨count, hr, hs⟩ := h
  obtain ⟨other, hr', hs'⟩ := h'
  have hadd := after_add machine count other
  have hadd' := after_add machine other count
  rw [after_of_stack hs, Nat.add_comm] at hadd
  rw [after_of_stack hs'] at hadd'
  rw [← hr, ← hr', ← hadd, hadd']

/-- It has carried the command out in the end. -/
theorem comes_carrying (router : Router) (command : Command) :
    (carrying router command).Comes (router.perform command).1 [] := by
  have hqueue : (carrying router command).stack = [.queue ([command] ++ [])] := rfl
  refine (comes_queue [command] [] hqueue).trans fun now hr hs => Comes.step ⟨0, ?_, ?_⟩
  · rw [after, step, hs]
    exact hr
  · rw [after, step, hs]

end Machine

/-- Between two commands nobody is out, and nothing adds anybody who waits. -/
structure Router.AddsNoWaiter (router : Router) : Prop where
  /-- The roster adds nobody. -/
  roster : router.roster.AddsNoWaiter
  /-- Nobody is out. -/
  rest : router.roster.outIds = []

theorem Router.AddsNoWaiter.carrying {router : Router} (h : router.AddsNoWaiter)
    {command : Command} (hc : command.AddsNoWaiter) :
    (Machine.carrying router command).AddsNoWaiter where
  roster := h.roster
  out := by
    rw [Machine.carrying, h.rest]
    exact List.Perm.refl _
  frames frame hf := by
    rw [List.mem_singleton.mp hf]
    intro other ho
    exact List.mem_singleton.mp ho ▸ hc

/-- Carrying out a command adds nobody. -/
theorem Router.AddsNoWaiter.perform {router : Router} (h : router.AddsNoWaiter)
    {command : Command} (hc : command.AddsNoWaiter) : (router.perform command).1.AddsNoWaiter := by
  obtain ⟨count, hr, hs⟩ := Machine.comes_carrying router command
  have hnow := (h.carrying hc).after count
  refine hr ▸ ⟨hnow.roster, ?_⟩
  have hout := hnow.out
  rw [hs] at hout
  exact hout.eq_nil

end ReplLink.Routing
