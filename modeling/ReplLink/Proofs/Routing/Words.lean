import ReplLink.Proofs.Routing.Waiters

/-!
# What a caller who waits is told

A caller waits for one job. The router tells it once: when a response is given while
the job waits under its id, with the outcome of that response, and when all jobs are
ended while it waits, with the last word of the policy. From then on the word is
owed to the caller, on the stack, until the job has ended and it is told.

The words that are owed and those that have been told are one list here, so that
nearly every step leaves it as it is.
-/

namespace ReplLink.Routing

section Definitions

/-- What an ending tells the caller who waits. -/
def Ending.word : Ending → Word
  | .answered outcome => some outcome
  | .dismissed policy => Router.lastWord policy

/-- How the job that waits under an id is ended by a command. -/
def Command.ending? (id : String) : Command → Option Ending
  | .route response => if response.requestId = id then some (.answered response.outcome) else none
  | .endAll policy => some (.dismissed policy)
  | _ => none

/-- What a command leaves of some jobs that wait. -/
def Command.leaves (command : Command) (jobs : List (String × Job)) : List (String × Job) :=
  jobs.filter fun pair => (command.ending? pair.1).isNone

/-- The words that are owed for those that it ends. -/
def Command.owes (command : Command) (jobs : List (String × Job)) : List Word :=
  jobs.filterMap fun pair => (command.ending? pair.1).map Ending.word

/-- The callers to whom a frame owes a word. -/
def Frame.promises : Frame → List (Option Nat × Word)
  | .finish entry outcome => [(entry.job.waiter, some outcome)]
  | .dismiss policy entries => entries.map fun entry => (entry.job.waiter, Router.lastWord policy)
  | .release policy entry => [(entry.job.waiter, Router.lastWord policy)]
  | _ => []

/-- The jobs that a caller waits for. -/
def Roster.waitingFor (roster : Roster) (waiter : Nat) : List (String × Job) :=
  roster.waiting.filter fun pair => pair.2.waiter = some waiter

/-- The words that some frames owe a caller. -/
def promised (stack : List Frame) (waiter : Nat) : List Word :=
  ((stack.flatMap Frame.promises).filter fun pair => pair.1 = some waiter).map (·.2)

/-- The words that a caller has been told. -/
def Router.told (router : Router) (waiter : Nat) : List Word :=
  (router.words.filter fun pair => pair.1 = waiter).map (·.2)

namespace Machine

/-- The words that a caller is owed or has been told. -/
def owed (machine : Machine) (waiter : Nat) : List Word :=
  promised machine.stack waiter ++ machine.router.told waiter

/-- The command that is the next thing to do. -/
def next? (machine : Machine) : Option Command :=
  match machine.stack with
  | .queue (command :: _) :: _ => some command
  | .program (command :: _) :: _ => some command
  | _ => none

/-- The command has ended jobs of the caller, and has left others. -/
structure Does (waiter : Nat) (machine : Machine) (command : Command) (next : Machine) :
    Prop where
  /-- The caller waits for what is left. -/
  left : (next.router.roster.waitingFor waiter).Perm
    (command.leaves (machine.router.roster.waitingFor waiter))
  /-- The caller is owed words for the others. -/
  owed : (next.owed waiter).Perm
    (command.owes (machine.router.roster.waitingFor waiter) ++ machine.owed waiter)

/-- The caller waits for the same and is owed the same. -/
def SameFor (waiter : Nat) (machine next : Machine) : Prop :=
  (next.router.roster.waitingFor waiter).Perm (machine.router.roster.waitingFor waiter) ∧
    (next.owed waiter).Perm (machine.owed waiter)

end Machine

end Definitions

section Accounts

variable {waiter : Nat}

theorem promised_append (first second : List Frame) :
    promised (first ++ second) waiter = promised first waiter ++ promised second waiter := by
  rw [promised, List.flatMap_append, List.filter_append, List.map_append]
  rfl

theorem promised_cons (frame : Frame) (rest : List Frame) :
    promised (frame :: rest) waiter = promised [frame] waiter ++ promised rest waiter :=
  promised_append [frame] rest

theorem promised_frames (callback : Callback) : promised callback.frames waiter = [] := by
  cases callback <;> rfl

/-- A frame owes the words of its jobs, and those that are told are no longer owed. -/
theorem told_tell (router : Router) (job : Job) (word : Word) :
    (router.tell job word).told waiter
      = (if job.waiter = some waiter then [word] else []) ++ router.told waiter := by
  rw [Router.tell_eq, Router.told, Router.told, List.filter_append, List.map_append]
  congr 1
  unfold wordsOf
  cases job.waiter with
  | none => rfl
  | some other =>
    by_cases h : other = waiter
    · simp [h]
    · simp [h]

theorem promised_finish (entry : Registration) (outcome : Outcome) :
    promised [.finish entry outcome] waiter
      = if entry.job.waiter = some waiter then [some outcome] else [] := by
  by_cases h : entry.job.waiter = some waiter
  · simp [promised, Frame.promises, h]
  · simp [promised, Frame.promises, h]

theorem promised_release (policy : Policy) (entry : Registration) :
    promised [.release policy entry] waiter
      = if entry.job.waiter = some waiter then [Router.lastWord policy] else [] := by
  by_cases h : entry.job.waiter = some waiter
  · simp [promised, Frame.promises, h]
  · simp [promised, Frame.promises, h]

theorem promised_dismiss_cons (policy : Policy) (entry : Registration)
    (others : List Registration) :
    promised [.dismiss policy (entry :: others)] waiter
      = promised [.release policy entry] waiter ++ promised [.dismiss policy others] waiter := by
  rw [← promised_append]
  rfl

/-- A command that ends none of some jobs leaves them all, -/
theorem Command.leaves_of_none {command : Command} {jobs : List (String × Job)}
    (h : ∀ pair ∈ jobs, command.ending? pair.1 = none) : command.leaves jobs = jobs :=
  List.filter_eq_self.mpr fun pair hp => by rw [h pair hp]; rfl

/-- and owes nothing for them. -/
theorem Command.owes_of_none {command : Command} {jobs : List (String × Job)}
    (h : ∀ pair ∈ jobs, command.ending? pair.1 = none) : command.owes jobs = [] :=
  List.filterMap_eq_nil_iff.mpr fun pair hp => by rw [h pair hp]; rfl

namespace Machine

theorem SameFor.refl (machine : Machine) : SameFor waiter machine machine :=
  ⟨List.Perm.refl _, List.Perm.refl _⟩

/-- Where roster and words are the same and the stack owes the same, so is all. -/
theorem SameFor.of_eq {machine next : Machine}
    (hr : next.router.roster = machine.router.roster)
    (hw : next.router.words = machine.router.words)
    (hs : promised next.stack waiter = promised machine.stack waiter) :
    SameFor waiter machine next := by
  refine ⟨by rw [hr], ?_⟩
  rw [owed, owed, Router.told, hw, hs, ← Router.told]

theorem SameFor.does {machine next : Machine} (h : SameFor waiter machine next)
    {command : Command}
    (hc : ∀ pair ∈ machine.router.roster.waitingFor waiter, command.ending? pair.1 = none) :
    Does waiter machine command next where
  left := by
    rw [Command.leaves_of_none hc]
    exact h.1
  owed := by
    rw [Command.owes_of_none hc]
    exact h.2

theorem Does.sameFor {machine next : Machine} {command : Command}
    (h : Does waiter machine command next)
    (hc : ∀ pair ∈ machine.router.roster.waitingFor waiter, command.ending? pair.1 = none) :
    SameFor waiter machine next := by
  have hleft := h.left
  have howed := h.owed
  rw [Command.leaves_of_none hc] at hleft
  rw [Command.owes_of_none hc] at howed
  exact ⟨hleft, howed⟩

/-- A command that ends nothing changes nothing for the caller. -/
theorem Does.of_eq {machine next : Machine} {command : Command}
    (hc : ∀ id, command.ending? id = none)
    (hr : next.router.roster = machine.router.roster)
    (hw : next.router.words = machine.router.words)
    (hs : promised next.stack waiter = promised machine.stack waiter) :
    Does waiter machine command next :=
  (SameFor.of_eq hr hw hs).does fun pair _ => hc pair.1

/-- A job that nobody waits for is registered. -/
theorem sameFor_register {machine : Machine} {id : String}
    (hid : machine.router.roster.get? id = none) {job : Job} (hw : job.waiter = none) :
    SameFor waiter machine (machine.register id job) := by
  refine ⟨?_, List.Perm.refl _⟩
  have hp := (Roster.waiting_enter hid job).filter fun pair => pair.2.waiter = some waiter
  rwa [List.filter_cons_of_neg (by simp [hw])] at hp

/-- A response whose id no job waits under ends nothing. -/
theorem ending?_of_heldUnder_none {roster : Roster} (hn : roster.keys.Nodup)
    {response : Response} (hh : roster.heldUnder response.requestId = none) :
    ∀ pair ∈ roster.waitingFor waiter, (Command.route response).ending? pair.1 = none := by
  intro pair hp
  have hheld := (Roster.mem_waiting_iff hn).mp (List.mem_filter.mp hp).1
  have hne : response.requestId ≠ pair.1 := by
    intro he
    rw [← he, hh] at hheld
    exact absurd hheld (by simp)
  exact if_neg hne

/-- The job that waits under an id and the others. -/
theorem waitingFor_checkOut {roster : Roster} (hn : roster.keys.Nodup) {id : String} {job : Job}
    (hh : roster.heldUnder id = some job) :
    (roster.waitingFor waiter).Perm ((if job.waiter = some waiter then [(id, job)] else [])
      ++ Roster.waitingFor (roster.put id .out) waiter) := by
  have hp := (Roster.waiting_checkOut hn hh).filter fun pair => pair.2.waiter = some waiter
  by_cases hw : job.waiter = some waiter
  · rw [List.filter_cons_of_pos (by simp [hw])] at hp
    rw [if_pos hw]
    exact hp
  · rw [List.filter_cons_of_neg (by simp [hw])] at hp
    rw [if_neg hw]
    exact hp

theorem heldUnder_checkOut (roster : Roster) (id : String) :
    Roster.heldUnder (roster.put id .out) id = none := by
  rw [Roster.heldUnder, Keyed.get?_put_self]

/-- The job that waits under the id of a response is ended, and no other. -/
theorem does_resolve {machine : Machine} (hn : machine.router.roster.keys.Nodup)
    {response : Response} {job : Job}
    (hh : machine.router.roster.heldUnder response.requestId = some job) :
    Does waiter machine (.route response) (machine.resolve response job) := by
  let rest : Roster := machine.router.roster.put response.requestId .out
  have hapart : rest.keys.Nodup := Keyed.nodup_keys_put hn _ _
  have hothers : ∀ pair ∈ rest.waitingFor waiter,
      (Command.route response).ending? pair.1 = none :=
    ending?_of_heldUnder_none hapart (heldUnder_checkOut _ _)
  have hended : (Command.route response).ending? response.requestId
      = some (.answered response.outcome) := if_pos rfl
  let mine : List (String × Job) :=
    if job.waiter = some waiter then [(response.requestId, job)] else []
  have hone : (Command.route response).leaves mine = [] ∧
      (Command.route response).owes mine
        = if job.waiter = some waiter then [some response.outcome] else [] := by
    by_cases hw : job.waiter = some waiter
    · have hmine : mine = [(response.requestId, job)] := if_pos hw
      rw [hmine, if_pos hw, Command.leaves, Command.owes]
      exact ⟨List.filter_cons_of_neg (by simp [hended]), by simp [hended, Ending.word]⟩
    · have hmine : mine = [] := if_neg hw
      rw [hmine, if_neg hw]
      exact ⟨rfl, rfl⟩
  have hsplit : (machine.router.roster.waitingFor waiter).Perm
      (mine ++ rest.waitingFor waiter) := waitingFor_checkOut hn hh
  have hrouter : (machine.resolve response job).router.roster = rest := by
    rw [resolve, Router.showFailure_eq]
    rfl
  have howed : (machine.resolve response job).owed waiter
      = (if job.waiter = some waiter then [some response.outcome] else [])
        ++ machine.owed waiter := by
    have hwords : (machine.resolve response job).router.told waiter
        = machine.router.told waiter := by
      rw [resolve, Router.showFailure_eq]
      rfl
    rw [owed, hwords, resolve, start, promised_append, promised_frames, promised_cons,
      promised_finish, List.nil_append, List.append_assoc]
    rfl
  constructor
  · rw [hrouter]
    refine List.Perm.trans ?_ (hsplit.filter _).symm
    rw [List.filter_append, ← Command.leaves, ← Command.leaves, Command.leaves_of_none hothers,
      hone.1]
    exact List.Perm.refl _
  · rw [howed]
    refine List.Perm.append ?_ (List.Perm.refl _)
    refine List.Perm.trans ?_ (hsplit.filterMap _).symm
    rw [List.filterMap_append, ← Command.owes, ← Command.owes, Command.owes_of_none hothers,
      hone.2, List.append_nil]

/-- All jobs that wait are ended. -/
theorem does_takeAll (machine : Machine) (policy : Policy) :
    Does waiter machine (.endAll policy) (machine.takeAll policy) where
  left := by
    have hnone : Roster.waitingFor machine.router.roster.checkedOut waiter = [] := by
      rw [Roster.waitingFor, Roster.waiting_checkedOut]
      rfl
    have hleaves (jobs : List (String × Job)) : (Command.endAll policy).leaves jobs = [] :=
      List.filter_eq_nil_iff.mpr fun _ _ => Bool.false_ne_true
    rw [takeAll, hnone, hleaves]
  owed := by
    have howes (jobs : List (String × Job)) :
        (Command.endAll policy).owes jobs = jobs.map fun _ => Router.lastWord policy :=
      (congrArg (fun word => jobs.filterMap word) rfl).trans
        (congrFun (List.filterMap_eq_map (f := fun _ => Router.lastWord policy)) jobs)
    have hpromised : promised [.dismiss policy
          (machine.router.roster.waiting.map fun pair => machine.entryOf pair.1 pair.2)] waiter
        = (machine.router.roster.waitingFor waiter).map fun _ => Router.lastWord policy := by
      rw [promised, List.flatMap_singleton, Frame.promises, List.map_map, List.filter_map,
        List.map_map]
      rfl
    have howed : (machine.takeAll policy).owed waiter
        = promised [.dismiss policy
            (machine.router.roster.waiting.map fun pair => machine.entryOf pair.1 pair.2)] waiter
          ++ machine.owed waiter := by
      rw [owed, takeAll, promised_cons, List.append_assoc]
      rfl
    rw [howed, hpromised, howes]

/-- A command ends the jobs that it is there to end, and owes the caller their words. -/
theorem does_give {machine : Machine} (hn : machine.router.roster.keys.Nodup) {command : Command}
    (hc : command.AddsNoWaiter) : Does waiter machine command (machine.give command) := by
  cases command with
  | enter id job =>
    rw [give]
    split
    · exact .of_eq (fun _ => rfl) rfl rfl rfl
    · next hcontains =>
      have hnone : machine.router.roster.get? id = none := by
        rw [Keyed.contains] at hcontains
        exact Option.isNone_iff_eq_none.mp (by simpa using hcontains)
      exact (sameFor_register hnone hc.1).does fun _ _ => rfl
  | route response =>
    rw [give]
    cases hh : machine.router.roster.heldUnder response.requestId with
    | none =>
      have hsame : SameFor waiter machine
          { machine with
            router := machine.router.note [.notice (.unknownResponse response.requestId)] } :=
        .of_eq rfl rfl rfl
      exact hsame.does (ending?_of_heldUnder_none hn hh)
    | some job => exact does_resolve hn hh
  | endAll policy => exact does_takeAll machine policy
  | describe job => exact .of_eq (fun _ => rfl) rfl rfl rfl
  | deleteFile path => exact .of_eq (fun _ => rfl) rfl rfl rfl
  | contains id => exact .of_eq (fun _ => rfl) rfl rfl rfl
  | size => exact .of_eq (fun _ => rfl) rfl rfl rfl
  | summary => exact .of_eq (fun _ => rfl) rfl rfl rfl

/-- The end of a resolution pays the word that it owes. -/
theorem sameFor_finish {machine : Machine} (h : machine.AddsNoWaiter) {entry : Registration}
    {outcome : Outcome} {rest : List Frame} (hs : machine.stack = .finish entry outcome :: rest)
    (panic : Option Panic) (book : Book) :
    SameFor waiter machine
      { machine with
        router := machine.router.finish entry.id entry.job outcome panic
        book, stack := rest } := by
  have hout := h.out
  rw [hs, List.flatMap_cons] at hout
  have hmarked : machine.router.roster.get? entry.id = some .out :=
    (Roster.mem_outIds_iff h.roster.apart).mp (hout.mem_iff.mpr List.mem_cons_self)
  constructor
  · rw [Router.finish_eq]
    exact (Roster.waiting_free h.roster.apart hmarked).filter _
  · have htold : (machine.router.finish entry.id entry.job outcome panic).told waiter
        = (if entry.job.waiter = some waiter then [some outcome] else [])
          ++ machine.router.told waiter := by
      rw [Router.finish, told_tell, Router.notePanic_eq, Router.release_eq]
      rfl
    rw [owed, owed, htold, hs, promised_cons, promised_finish, List.append_assoc]
    exact List.perm_append_comm_assoc _ _ _

/-- So does the end of a job whose connection went away. -/
theorem sameFor_release {machine : Machine} {policy : Policy} {entry : Registration}
    {rest : List Frame} (hs : machine.stack = .release policy entry :: rest)
    (panic : Option Panic) (book : Book) :
    SameFor waiter machine
      { machine with
        router := ((machine.router.notePanic entry.id panic).release entry.job).tell entry.job
          (Router.lastWord policy)
        book, stack := rest } := by
  constructor
  · rw [Router.tell_eq, Router.release_eq, Router.notePanic_eq]
    exact List.Perm.refl _
  · have htold : (((machine.router.notePanic entry.id panic).release entry.job).tell entry.job
          (Router.lastWord policy)).told waiter
        = (if entry.job.waiter = some waiter then [Router.lastWord policy] else [])
          ++ machine.router.told waiter := by
      rw [told_tell, Router.release_eq, Router.notePanic_eq]
      rfl
    rw [owed, owed, htold, hs, promised_cons, promised_release, List.append_assoc]
    exact List.perm_append_comm_assoc _ _ _

/-- A job that is dismissed is owed its word by another frame. -/
theorem sameFor_dismissOne {machine : Machine} {policy : Policy} {entry : Registration}
    {others : List Registration} {rest : List Frame}
    (hs : machine.stack = .dismiss policy (entry :: others) :: rest) :
    SameFor waiter machine
      (dismissOne { machine with stack := .dismiss policy others :: rest } policy entry) := by
  have hpromised (left : Registration) (hl : left.job = entry.job) :
      promised (.release policy left :: .dismiss policy others :: rest) waiter
        = promised machine.stack waiter := by
    rw [hs, promised_cons, promised_cons (.dismiss policy others),
      promised_cons (.dismiss policy (entry :: others)), promised_dismiss_cons,
      promised_release, promised_release, hl, List.append_assoc]
  cases policy with
  | abandon => exact .of_eq rfl rfl (hpromised entry rfl)
  | fail =>
    refine .of_eq rfl rfl ?_
    rw [dismissOne, start, promised_append, promised_frames]
    exact hpromised (entry.start (.failure Router.connectionLost)) rfl

/-- Only a step that begins with a command changes anything for the caller. -/
theorem step_does {machine : Machine} (h : machine.AddsNoWaiter) (waiter : Nat) :
    match machine.next? with
    | some command => Does waiter machine command machine.step
    | none => SameFor waiter machine machine.step := by
  obtain ⟨router, book, numbers, stack⟩ := machine
  cases stack with
  | nil => exact .refl _
  | cons frame rest =>
    have hframe : frame.AddsNoWaiter := h.frames frame List.mem_cons_self
    cases frame with
    | queue commands =>
      cases commands with
      | nil => exact SameFor.of_eq rfl rfl rfl
      | cons command others =>
        let before : Machine := ⟨router, book, numbers, .queue others :: rest⟩
        have hapart : before.router.roster.keys.Nodup := h.roster.apart
        have hdoes : Does waiter before command (before.give command) :=
          does_give hapart (hframe command List.mem_cons_self)
        exact ⟨hdoes.left, hdoes.owed⟩
    | program commands =>
      cases commands with
      | nil => exact SameFor.of_eq rfl rfl rfl
      | cons command others =>
        let before : Machine :=
          ⟨router, book, numbers, .report (router.replyTo command) :: .program others :: rest⟩
        have hapart : before.router.roster.keys.Nodup := h.roster.apart
        have hdoes : Does waiter before command (before.give command) :=
          does_give hapart (hframe command List.mem_cons_self)
        exact ⟨hdoes.left, hdoes.owed⟩
    | report reply => exact SameFor.of_eq rfl rfl rfl
    | finish entry outcome => exact sameFor_finish h rfl _ _
    | dismiss policy entries =>
      cases entries with
      | nil => exact SameFor.of_eq rfl rfl rfl
      | cons entry others => exact sameFor_dismissOne rfl
    | release policy entry => exact sameFor_release rfl _ _

end Machine

end Accounts

end ReplLink.Routing
