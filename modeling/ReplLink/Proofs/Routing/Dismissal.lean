import ReplLink.Proofs.Routing.Resolution

/-!
# The end of a job whose connection went away

Like a resolution, the end of a job whose connection went away goes on to its end whatever the
callback does: it is noted, the failure callback runs if the policy says so, the callback's own
failure is noted, the job's file is deleted, the busy time ends and a waiting caller is told,
each once and in this order. The error viewer has no part in it, and the id is left to whoever
has registered it anew. The jobs of a connection are ended so one after the other.
-/

namespace ReplLink.Routing

/-- What the callback tells that a policy starts. -/
def Policy.announce (policy : Policy) (job : Job) : List Event :=
  match policy with
  | .abandon => []
  | .fail => job.onFailure.announce job (.failure Router.connectionLost)

/-- The commands that this callback gives. -/
def Policy.program (policy : Policy) (job : Job) : List Command :=
  match policy with
  | .abandon => []
  | .fail => job.onFailure.program

/-- None of this is a failure in the error viewer, or one in the log in place of a viewer. -/
def AreUnviewed (events : List Event) : Prop :=
  ∀ event ∈ events, (∀ origin failure, event ≠ .shown origin failure) ∧
    (∀ origin message, event ≠ .notice (.failure origin message)) ∧
    ∀ text, event ≠ .notice (.frame text)

theorem areUnviewed_nil : AreUnviewed [] := fun _ he => absurd he List.not_mem_nil

theorem AreUnviewed.append {first second : List Event} (hf : AreUnviewed first)
    (hs : AreUnviewed second) : AreUnviewed (first ++ second) := fun event he =>
  (List.mem_append.mp he).elim (hf event) (hs event)

/-- A callback does not have the error viewer show anything. -/
theorem areUnviewed_announce (callback : Callback) (job : Job) (outcome : Outcome) :
    AreUnviewed (callback.announce job outcome) := by
  intro event he
  obtain ⟨_, rfl⟩ | ⟨_, rfl⟩ | rfl | ⟨_, rfl⟩ := mem_announce he <;> simp

/-- Nor does the line about a callback that fails. -/
theorem areUnviewed_panicEvents (id : String) (panic : Option Panic) :
    AreUnviewed (panicEvents id panic) := by
  intro event he
  cases panic with
  | none => exact absurd he List.not_mem_nil
  | some what =>
    rw [List.mem_singleton.mp he]
    simp

/-- What was done from one router to the next was added: nothing is taken out of the log, and
no word is taken back. -/
structure Router.Extends (before after : Router) : Prop where
  /-- The front end is the same. -/
  frontEnd : after.frontEnd = before.frontEnd
  /-- The log has grown. -/
  log : before.log <+: after.log
  /-- More callers may have been told. -/
  words : before.words <:+ after.words

namespace Router.Extends

variable {before after last : Router}

theorem refl (router : Router) : Extends router router :=
  ⟨rfl, List.prefix_refl _, List.suffix_refl _⟩

theorem trans (first : Extends before after) (second : Extends after last) :
    Extends before last :=
  ⟨second.frontEnd.trans first.frontEnd, first.log.trans second.log,
    first.words.trans second.words⟩

theorem note (h : Extends before after) (events : List Event) :
    Extends before (after.note events) :=
  h.trans ⟨rfl, List.prefix_append _ _, List.suffix_refl _⟩

end Router.Extends

namespace Machine

/-- Beginning a command adds to what has happened. -/
theorem extends_give (machine : Machine) (command : Command) :
    machine.router.Extends (machine.give command).router := by
  have hsame (roster : Roster) (files : Files) :
      machine.router.Extends { machine.router with roster, files } :=
    ⟨rfl, List.prefix_refl _, List.suffix_refl _⟩
  cases command with
  | enter id job =>
    rw [give]
    split
    · exact hsame _ _
    · exact hsame _ _
  | route response =>
    rw [give]
    split
    · rw [resolve, Router.showFailure_eq]
      exact ((hsame _ _).note _).note _
    · exact (Router.Extends.refl _).note _
  | endAll policy => exact hsame _ _
  | contains id => exact .refl _
  | size => exact .refl _
  | describe job => exact hsame _ _
  | summary => exact .refl _
  | deleteFile path => exact hsame _ _

/-- So does each step. -/
theorem extends_step (machine : Machine) : machine.router.Extends machine.step.router := by
  rw [step]
  split
  · exact .refl _
  · exact .refl _
  · next command others rest hs =>
    exact extends_give { machine with stack := .queue others :: rest } command
  · exact .refl _
  · next command others rest hs =>
    let waits : List Frame := .report (machine.router.replyTo command) :: .program others :: rest
    exact extends_give { machine with stack := waits } command
  · exact (Router.Extends.refl _).note _
  · rw [Router.finish_eq, List.append_assoc]
    exact ⟨rfl, List.prefix_append _ _, List.suffix_append _ _⟩
  · exact .refl _
  · next policy entry others rest hs =>
    cases policy with
    | abandon => exact (Router.Extends.refl _).note _
    | fail => exact ((Router.Extends.refl _).note _).note _
  · rw [Router.notePanic_eq, Router.release_eq, Router.tell_eq]
    refine ⟨rfl, ?_, List.suffix_append _ _⟩
    exact (List.prefix_append _ _).trans (List.prefix_append _ _)

theorem extends_after (machine : Machine) (count : Nat) :
    machine.router.Extends (machine.after count).router := by
  induction count generalizing machine with
  | zero => exact .refl _
  | succ count ih => exact machine.extends_step.trans (ih machine.step)

end Machine

namespace Router

/-- A command, with all that the callbacks command that it starts, adds to what has happened. -/
theorem extends_perform (router : Router) (command : Command) :
    router.Extends (router.perform command).1 := by
  obtain ⟨count, hr, -⟩ := router.still.comes_give command
  exact hr ▸ (router.still.extends_give command).trans (Machine.extends_after _ count)

theorem extends_performAll (router : Router) (program : List Command) :
    router.Extends (router.performAll program) := by
  induction program generalizing router with
  | nil =>
    rw [performAll_nil]
    exact .refl router
  | cons command rest ih =>
    rw [performAll_cons]
    exact ((router.extends_perform command).note _).trans (ih _)

/-- The router when a job whose connection went away has been noted, and its callback has told
the editor and begins to give commands. -/
def parting (router : Router) (policy : Policy) (id : String) (job : Job) : Router :=
  router.note (.notice (.ended id job.origin policy) :: policy.announce job)

/-- The router when all these commands have been carried out. -/
def parted (router : Router) (policy : Policy) (id : String) (job : Job) : Router :=
  (router.parting policy id job).performAll (policy.program job)

/-- The end of a job: what is noted of its callback's failure, what is left of the files, and
what the callers have been told. -/
theorem endOne_eq_parted (router : Router) (policy : Policy) (id : String) (job : Job) :
    router.endOne policy id job
      = { frontEnd := (router.parted policy id job).frontEnd
          roster := (router.parted policy id job).roster
          files := filesWithout job (router.parted policy id job).files
          words := wordsOf job (lastWord policy) ++ (router.parted policy id job).words
          log := (router.parted policy id job).log ++ panicEvents id (policy.panic? job)
            ++ (router.parted policy id job).frontEnd.stop job.origin } := by
  have hparted : ((router.note [.notice (.ended id job.origin policy)]).dismiss policy job).1
      = router.parted policy id job := by
    cases policy with
    | abandon => exact (performAll_nil _).symm
    | fail =>
      rw [dismiss, call_eq, parted, parting]
      simp only [note, Policy.announce, List.append_assoc, List.singleton_append]
      rfl
  rw [endOne_eq, hparted, notePanic_eq, release_eq, tell_eq]
  rfl

/-- A job whose connection went away has been ended. -/
structure Concludes (policy : Policy) (before : Router) (id : String) (job : Job)
    (after : Router) : Prop where
  /-- In the log stand, in this order, the line for the end, what the callback tells and what its
  commands set off, a line if the callback has failed itself, and for an editor the end of the
  busy time. The callback is the failure callback. It is told that the connection was closed,
  and it runs under the failing policy only. Of what it and the lines are for, nothing is for
  the error viewer: there stands at most what its commands have other jobs show. -/
  events : ∃ told nested noted,
    (policy = .abandon → told = [] ∧ nested = [] ∧ noted = []) ∧
    (policy = .fail →
      told = job.onFailure.announce job (.failure ⟨"connection closed", []⟩)) ∧
    (∀ what, policy = .fail → job.onFailure = .panic what →
      noted = [.notice (.panicked id what)]) ∧
    ((∀ what, job.onFailure ≠ .panic what) → noted = []) ∧
    (before.parted policy id job).log = (before.parting policy id job).log ++ nested ∧
    (policy.program job = [] → nested = []) ∧
    after.log = before.log ++ ([.notice (.ended id job.origin policy)] ++ (told ++ nested)
      ++ noted ++ (if before.frontEnd = .editor then [.busyStop job.origin] else [])) ∧
    AreUnviewed (told ++ noted)
  /-- Whoever may have laid one there, no regular file is left where the job's file was, which
  is the one that was attached last. -/
  noFile : ∀ attachment, job.attached.getLast? = some attachment →
    after.files.isFile attachment.path = false
  /-- The id is left to whoever has registered it anew. -/
  roster : after.roster = (before.parted policy id job).roster
  /-- Under the failing policy the last word is for the caller who waits for the job: the
  connection was closed. -/
  failed : policy = .fail → ∀ waiter, job.waiter = some waiter →
    after.words = (waiter, some (.failure ⟨"connection closed", []⟩))
        :: (before.parted policy id job).words ∧
      after.wordFor waiter = some (some (.failure ⟨"connection closed", []⟩))
  /-- Under the abandoning policy the last word is that this caller will not get a value. -/
  abandoned : policy = .abandon → ∀ waiter, job.waiter = some waiter →
    after.words = (waiter, none) :: before.words ∧ after.wordFor waiter = some none
  /-- The front end is the same. -/
  frontEnd : after.frontEnd = before.frontEnd

/-- Every job is ended so, whatever its callback does. -/
theorem concludes_endOne (policy : Policy) (router : Router) (id : String) (job : Job) :
    router.Concludes policy id job (router.endOne policy id job) := by
  have hextends : (router.parting policy id job).Extends (router.parted policy id job) :=
    extends_performAll _ _
  have hfront : (router.parted policy id job).frontEnd = router.frontEnd := hextends.frontEnd
  obtain ⟨nested, hlog⟩ := hextends.log
  have hidle (hp : policy.program job = []) : nested = [] := by
    rw [parted, hp, performAll_nil] at hlog
    exact List.append_right_eq_self.mp hlog
  have hevents : (router.endOne policy id job).log
      = router.log ++ ([.notice (.ended id job.origin policy)] ++ (policy.announce job ++ nested)
        ++ panicEvents id (policy.panic? job)
        ++ (if router.frontEnd = .editor then [.busyStop job.origin] else [])) := by
    rw [endOne_eq_parted, ← hlog, hfront, stop_eq]
    simp only [parting, note, List.append_assoc, List.cons_append, List.nil_append]
  refine
    { events := ⟨policy.announce job, nested, panicEvents id (policy.panic? job), ?_, ?_, ?_, ?_,
        hlog.symm, hidle, hevents, ?_⟩
      noFile := fun attachment ha => ?_
      roster := by rw [endOne_eq_parted]
      failed := fun hp waiter hw => ?_
      abandoned := fun hp waiter hw => ?_
      frontEnd := by rw [endOne_eq_parted]; exact hfront }
  · rintro rfl
    exact ⟨rfl, hidle rfl, rfl⟩
  · rintro rfl
    rfl
  · rintro what rfl hc
    rw [Policy.panic?, hc]
    rfl
  · intro hc
    cases policy with
    | abandon => rfl
    | fail => exact panicEvents_eq_nil id hc
  · refine .append ?_ (areUnviewed_panicEvents id _)
    cases policy with
    | abandon => exact areUnviewed_nil
    | fail => exact areUnviewed_announce job.onFailure job _
  · rw [endOne_eq_parted]
    exact isFile_filesWithout _ ha
  · subst hp
    rw [endOne_eq_parted, wordFor, wordsOf, hw]
    exact ⟨rfl, List.lookup_cons_self⟩
  · subst hp
    have hparted : router.parted .abandon id job = router.parting .abandon id job :=
      performAll_nil _
    have hwords : (router.parted .abandon id job).words = router.words := by
      rw [hparted]
      rfl
    rw [endOne_eq_parted, wordFor, wordsOf, hw, hwords]
    exact ⟨rfl, List.lookup_cons_self⟩

/-- The jobs of a list have been ended, one after the other. -/
inductive ConcludesAll (policy : Policy) : Router → List (String × Job) → Router → Prop
  /-- None is left. -/
  | done (router : Router) : ConcludesAll policy router [] router
  /-- The first one is ended before the next one's end begins. -/
  | next {before between after : Router} {id : String} {job : Job} {rest : List (String × Job)}
    (first : before.Concludes policy id job between)
    (others : ConcludesAll policy between rest after) :
    ConcludesAll policy before ((id, job) :: rest) after

theorem concludesAll_endAll (policy : Policy) (router : Router) (jobs : List (String × Job)) :
    ConcludesAll policy router jobs (router.endAll policy jobs) := by
  induction jobs generalizing router with
  | nil =>
    rw [endAll_nil]
    exact .done router
  | cons pair rest ih =>
    rw [endAll_cons]
    exact .next (concludes_endOne policy router pair.1 pair.2) (ih _)

/-- If no callback gives commands, ending the jobs leaves the roster as it was. -/
theorem ConcludesAll.roster_eq {policy : Policy} {before after : Router}
    {jobs : List (String × Job)} (h : ConcludesAll policy before jobs after)
    (hp : ∀ pair ∈ jobs, policy.program pair.2 = []) : after.roster = before.roster := by
  induction h with
  | done => rfl
  | @next before between after id job rest first _ ih =>
    have hnone : policy.program job = [] := hp _ List.mem_cons_self
    have hfirst : between.roster = before.roster := by
      rw [first.roster, parted, hnone, performAll_nil]
      rfl
    exact (ih fun pair hm => hp pair (List.mem_cons_of_mem _ hm)).trans hfirst

/-- Where all that wait were taken out of the roster, ending all jobs changes nothing. -/
theorem perform_endAll_of_checkedOut {router : Router} {roster : Roster}
    (h : router.roster = roster.checkedOut) (policy : Policy) :
    router.perform (.endAll policy) = (router, .count 0) := by
  have hnone : router.roster.waiting = [] := by rw [h, Roster.waiting_checkedOut]
  have hsame : router.roster.checkedOut = router.roster := by
    rw [h, Roster.checkedOut, Roster.checkedOut, List.filter_filter]
    simp only [Bool.and_self]
  rw [perform_endAll]
  simp only [Roster.takeAll, hnone, hsame, endAll_nil, List.length_nil]

end Router

end ReplLink.Routing
