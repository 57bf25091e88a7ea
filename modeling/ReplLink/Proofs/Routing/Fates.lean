import ReplLink.Proofs.Routing.Words

/-!
# What becomes of a job that a caller waits for

A caller waits for one job. While a command is carried out the job may be taken out to
be ended, and one of its callbacks may be started: these are its stages. The job is
ended once at most. The callback that its ending calls for is started once, at once
behind a response and later when all jobs are ended, and the caller is told the word of
the ending.
-/

namespace ReplLink.Routing

section Definitions

/-- A stage of a job that a caller waits for. -/
inductive JobStage where
  /-- It is taken out to be ended. -/
  | ended (ending : Ending)
  /-- A callback of it is started. -/
  | started (outcome : Outcome) (callback : Callback)

/-- The ending in a stage. -/
def JobStage.ending? : JobStage → Option Ending
  | .ended ending => some ending
  | .started _ _ => none

/-- The callback that is started in a stage, with its outcome. -/
def JobStage.start? : JobStage → Option (Outcome × Callback)
  | .ended _ => none
  | .started outcome callback => some (outcome, callback)

/-- The callbacks that an ending calls for if it is the job of a caller. -/
def Ending.startsFor (waiter : Nat) (job : Job) (ending : Ending) : List (Outcome × Callback) :=
  if job.waiter = some waiter then ending.starts job else []

/-- The callbacks that a command calls for, of the jobs that it ends. -/
def Command.calls (command : Command) (jobs : List (String × Job)) : List (Outcome × Callback) :=
  jobs.flatMap fun pair => (command.ending? pair.1).elim [] (·.starts pair.2)

/-- The callbacks of a caller's jobs that are started when a command is given. -/
def Router.startsOn (router : Router) (waiter : Nat) : Command → List (Outcome × Callback)
  | .route response =>
    (router.roster.heldUnder response.requestId).elim []
      fun job => (Ending.answered response.outcome).startsFor waiter job
  | _ => []

/-- The callbacks of a caller's jobs that a frame is still to start. -/
def Frame.calls (waiter : Nat) : Frame → List (Outcome × Callback)
  | .dismiss policy entries =>
    entries.flatMap fun entry => (Ending.dismissed policy).startsFor waiter entry.job
  | _ => []

/-- The callbacks of a caller's jobs that are still to be started. -/
def called (stack : List Frame) (waiter : Nat) : List (Outcome × Callback) :=
  stack.flatMap (Frame.calls waiter)

namespace Machine

/-- How the next step ends the job that waits under an id and that a caller waits for. -/
def ended? (machine : Machine) (id : String) (waiter : Nat) : Option Ending :=
  match machine.next?, machine.router.roster.heldUnder id with
  | some command, some job =>
    if job.waiter = some waiter then command.ending? id else none
  | _, _ => none

/-- The callbacks of a caller's jobs that the next step starts. -/
def starts (machine : Machine) (waiter : Nat) : List (Outcome × Callback) :=
  match machine.stack with
  | .dismiss policy (entry :: _) :: _ => (Ending.dismissed policy).startsFor waiter entry.job
  | _ => machine.next?.elim [] (machine.router.startsOn waiter)

/-- The stages in one step. -/
def stagesNow (machine : Machine) (id : String) (waiter : Nat) : List JobStage :=
  (machine.ended? id waiter).toList.map JobStage.ended
    ++ (machine.starts waiter).map fun start => JobStage.started start.1 start.2

/-- The stages in so many steps, in order. -/
def stages (machine : Machine) (id : String) (waiter : Nat) : Nat → List JobStage
  | 0 => []
  | count + 1 => machine.stagesNow id waiter ++ machine.step.stages id waiter count

/-- A caller waits for the job under an id and nothing has happened to it, or it has been
ended once. Then its callback has been started or is still to be started, and the caller
has been told the word of the ending or is owed it. -/
def Stands (machine : Machine) (id : String) (job : Job) (waiter : Nat) (stages : List JobStage) :
    Prop :=
  (stages = [] ∧ machine.router.roster.waitingFor waiter = [(id, job)] ∧
      machine.owed waiter = [] ∧ called machine.stack waiter = []) ∨
    ∃ ending : Ending, stages.filterMap JobStage.ending? = [ending] ∧
      (stages.filterMap JobStage.start? ++ called machine.stack waiter).Perm (ending.starts job) ∧
      machine.router.roster.waitingFor waiter = [] ∧ machine.owed waiter = [ending.word]

end Machine

/-- While a command is carried out, from its beginning to its end, these are the stages of the
job that waits under an id and that a caller waits for. -/
def Router.Stages (router : Router) (command : Command) (id : String) (waiter : Nat)
    (stages : List JobStage) : Prop :=
  ∃ count, ((Machine.carrying router command).after count).stack = [] ∧
    (Machine.carrying router command).stages id waiter count = stages

/-- A caller waits for the job under an id and nothing has happened to it, or it has been
ended once. Then its callback has been started, and the caller has been told the word of
the ending. -/
def Router.Stands (router : Router) (id : String) (job : Job) (waiter : Nat)
    (stages : List JobStage) : Prop :=
  (stages = [] ∧ router.roster.waitingFor waiter = [(id, job)] ∧ router.told waiter = []) ∨
    ∃ ending : Ending, stages.filterMap JobStage.ending? = [ending] ∧
      (stages.filterMap JobStage.start?).Perm (ending.starts job) ∧
      router.roster.waitingFor waiter = [] ∧ router.told waiter = [ending.word]

end Definitions

section Calls

variable {waiter : Nat}

theorem called_append (first second : List Frame) :
    called (first ++ second) waiter = called first waiter ++ called second waiter :=
  List.flatMap_append

theorem called_frames (callback : Callback) : called callback.frames waiter = [] := by
  cases callback <;> rfl

/-- A command that ends none of some jobs calls for none of their callbacks. -/
theorem Command.calls_of_none {command : Command} {jobs : List (String × Job)}
    (h : ∀ pair ∈ jobs, command.ending? pair.1 = none) : command.calls jobs = [] :=
  List.flatMap_eq_nil_iff.mpr fun pair hp => by rw [h pair hp]; rfl

theorem Command.calls_append (command : Command) (first second : List (String × Job)) :
    command.calls (first ++ second) = command.calls first ++ command.calls second :=
  List.flatMap_append

/-- A response calls for a callback of the job under its id, if it is the caller's. -/
theorem Command.calls_route (response : Response) (job : Job) :
    (Command.route response).calls
        (if job.waiter = some waiter then [(response.requestId, job)] else [])
      = (Ending.answered response.outcome).startsFor waiter job := by
  have hended : (Command.route response).ending? response.requestId
      = some (.answered response.outcome) := if_pos rfl
  unfold Ending.startsFor
  split
  · rw [Command.calls, List.flatMap_singleton, hended]
    rfl
  · rfl

theorem Command.calls_perm (command : Command) {first second : List (String × Job)}
    (h : first.Perm second) : (command.calls first).Perm (command.calls second) :=
  h.flatMap_right _

/-- The end of all jobs calls for a callback of each job of the caller's that waits. -/
theorem Command.calls_endAll (policy : Policy) (roster : Roster) :
    (Command.endAll policy).calls (roster.waitingFor waiter)
      = roster.waiting.flatMap fun pair => (Ending.dismissed policy).startsFor waiter pair.2 := by
  rw [Command.calls, Roster.waitingFor]
  induction roster.waiting with
  | nil => rfl
  | cons pair rest ih =>
    rw [List.filter_cons, List.flatMap_cons, ← ih, Ending.startsFor]
    by_cases hw : pair.2.waiter = some waiter
    · simp only [hw, decide_true, if_true, List.flatMap_cons]
      rfl
    · simp only [hw, decide_false, if_false, Bool.false_eq_true, List.nil_append]

namespace Machine

/-- A response starts its callback at once and puts none off. -/
theorem called_resolve (machine : Machine) (response : Response) (job : Job) :
    called (machine.resolve response job).stack waiter = called machine.stack waiter := by
  rw [resolve, start, called_append, called_frames, List.nil_append]
  rfl

/-- The end of all jobs puts all their callbacks off. -/
theorem called_takeAll (machine : Machine) (policy : Policy) :
    called (machine.takeAll policy).stack waiter
      = (machine.router.roster.waiting.flatMap
          fun pair => (Ending.dismissed policy).startsFor waiter pair.2)
        ++ called machine.stack waiter := by
  rw [takeAll, called, List.flatMap_cons, Frame.calls, List.flatMap_map]
  rfl

/-- When a command is given, the callbacks that it calls for are started or put off. -/
theorem called_give {machine : Machine} (hn : machine.router.roster.keys.Nodup)
    (command : Command) :
    (machine.router.startsOn waiter command ++ called (machine.give command).stack waiter).Perm
      (command.calls (machine.router.roster.waitingFor waiter) ++ called machine.stack waiter) := by
  have hnone {next : Machine} (hs : next.stack = machine.stack)
      (hr : machine.router.startsOn waiter command = [])
      (hc : command.calls (machine.router.roster.waitingFor waiter) = []) :
      (machine.router.startsOn waiter command ++ called next.stack waiter).Perm
        (command.calls (machine.router.roster.waitingFor waiter)
          ++ called machine.stack waiter) := by
    rw [hr, hc, hs]
  have hidle (hc : ∀ id, command.ending? id = none) :
      command.calls (machine.router.roster.waitingFor waiter) = [] :=
    Command.calls_of_none fun pair _ => hc pair.1
  cases command with
  | enter id job =>
    rw [give]
    split
    · exact hnone rfl rfl (hidle fun _ => rfl)
    · exact hnone rfl rfl (hidle fun _ => rfl)
  | route response =>
    rw [give]
    cases hh : machine.router.roster.heldUnder response.requestId with
    | none =>
      refine hnone rfl ?_ (Command.calls_of_none (ending?_of_heldUnder_none hn hh))
      rw [Router.startsOn, hh]
      rfl
    | some job =>
      have hstarts : machine.router.startsOn waiter (.route response)
          = (Ending.answered response.outcome).startsFor waiter job := by
        rw [Router.startsOn, hh]
        rfl
      have hapart : Keyed.keys (machine.router.roster.put response.requestId .out) |>.Nodup :=
        Keyed.nodup_keys_put hn _ _
      have hcalls := Command.calls_perm (.route response)
        (@waitingFor_checkOut waiter _ hn _ _ hh)
      rw [Command.calls_append, Command.calls_of_none
        (ending?_of_heldUnder_none hapart (heldUnder_checkOut _ _)), List.append_nil,
        Command.calls_route] at hcalls
      rw [hstarts, called_resolve]
      exact hcalls.symm.append_right _
  | endAll policy =>
    rw [give, called_takeAll, Command.calls_endAll]
    exact List.Perm.refl _
  | describe job => exact hnone rfl rfl (hidle fun _ => rfl)
  | deleteFile path => exact hnone rfl rfl (hidle fun _ => rfl)
  | contains id => exact hnone rfl rfl (hidle fun _ => rfl)
  | size => exact hnone rfl rfl (hidle fun _ => rfl)
  | summary => exact hnone rfl rfl (hidle fun _ => rfl)

/-- A step starts the callbacks that are called for or puts them off. -/
theorem called_step {machine : Machine} (hn : machine.router.roster.keys.Nodup) :
    (machine.starts waiter ++ called machine.step.stack waiter).Perm
      (machine.next?.elim [] (·.calls (machine.router.roster.waitingFor waiter))
        ++ called machine.stack waiter) := by
  obtain ⟨router, book, numbers, stack⟩ := machine
  cases stack with
  | nil => exact List.Perm.refl _
  | cons frame rest =>
    cases frame with
    | queue commands =>
      cases commands with
      | nil => exact List.Perm.refl _
      | cons command others =>
        let before : Machine := ⟨router, book, numbers, .queue others :: rest⟩
        have hapart : before.router.roster.keys.Nodup := hn
        exact called_give hapart command
    | program commands =>
      cases commands with
      | nil => exact List.Perm.refl _
      | cons command others =>
        let before : Machine :=
          ⟨router, book, numbers, .report (router.replyTo command) :: .program others :: rest⟩
        have hapart : before.router.roster.keys.Nodup := hn
        exact called_give hapart command
    | report reply => exact List.Perm.refl _
    | finish entry outcome => exact List.Perm.refl _
    | dismiss policy entries =>
      cases entries with
      | nil => exact List.Perm.refl _
      | cons entry others =>
        have hcalled : called (step ⟨router, book, numbers,
              .dismiss policy (entry :: others) :: rest⟩).stack waiter
            = called (.dismiss policy others :: rest) waiter := by
          cases policy with
          | abandon => rfl
          | fail =>
            have hstep : step ⟨router, book, numbers, .dismiss .fail (entry :: others) :: rest⟩
                = dismissOne ⟨router, book, numbers, .dismiss .fail others :: rest⟩ .fail entry :=
              rfl
            rw [hstep, dismissOne, start, called_append, called_frames, List.nil_append]
            rfl
        have hsplit : called (.dismiss policy (entry :: others) :: rest) waiter
            = (Ending.dismissed policy).startsFor waiter entry.job
              ++ called (.dismiss policy others :: rest) waiter := by
          rw [called, called, List.flatMap_cons, List.flatMap_cons, Frame.calls, Frame.calls,
            List.flatMap_cons, List.append_assoc]
        refine List.Perm.of_eq ?_
        rw [hcalled]
        exact hsplit.symm
    | release policy entry => exact List.Perm.refl _

end Machine

end Calls

section Fates

variable {waiter : Nat} {id : String} {job : Job} {stages : List JobStage}

theorem filterMap_ending?_started (starts : List (Outcome × Callback)) :
    (starts.map fun start => JobStage.started start.1 start.2).filterMap JobStage.ending? = [] := by
  rw [List.filterMap_map]
  exact List.filterMap_eq_nil_iff.mpr fun _ _ => rfl

theorem filterMap_start?_started (starts : List (Outcome × Callback)) :
    (starts.map fun start => JobStage.started start.1 start.2).filterMap JobStage.start?
      = starts := by
  rw [List.filterMap_map]
  exact List.filterMap_some

/-- The job that a caller waits for is the one under the id. -/
theorem heldUnder_of_waitingFor {roster : Roster} (hn : roster.keys.Nodup)
    (h : (id, job) ∈ roster.waitingFor waiter) :
    roster.heldUnder id = some job ∧ job.waiter = some waiter := by
  obtain ⟨hm, hw⟩ := List.mem_filter.mp h
  exact ⟨(Roster.mem_waiting_iff hn).mp hm, by simpa using hw⟩

/-- Nothing is ended that nobody waits for. -/
theorem heldUnder_of_waitingFor_nil {roster : Roster} (hn : roster.keys.Nodup)
    (h : roster.waitingFor waiter = []) (hh : roster.heldUnder id = some job) :
    job.waiter ≠ some waiter := by
  intro hw
  have hm : (id, job) ∈ roster.waitingFor waiter :=
    List.mem_filter.mpr ⟨(Roster.mem_waiting_iff hn).mpr hh, by simpa using hw⟩
  rw [h] at hm
  exact absurd hm List.not_mem_nil

namespace Machine

/-- A step that ends nothing of the caller keeps the account. -/
theorem Stands.of_sameFor {machine next : Machine} (h : SameFor waiter machine next)
    {starts : List (Outcome × Callback)}
    (hc : (starts ++ called next.stack waiter).Perm (called machine.stack waiter))
    (hs : machine.Stands id job waiter stages) :
    next.Stands id job waiter
      (stages ++ starts.map fun start => JobStage.started start.1 start.2) := by
  rcases hs with ⟨rfl, hj, ho, hd⟩ | ⟨ending, he, hp, hw, ho⟩
  · rw [hd] at hc
    obtain ⟨rfl, hd⟩ := List.append_eq_nil_iff.mp hc.eq_nil
    exact .inl ⟨rfl, List.perm_singleton.mp (hj ▸ h.1), (ho ▸ h.2).eq_nil, hd⟩
  · refine .inr ⟨ending, ?_, ?_, (hw ▸ h.1).eq_nil, List.perm_singleton.mp (ho ▸ h.2)⟩
    · rw [List.filterMap_append, filterMap_ending?_started, List.append_nil, he]
    · rw [List.filterMap_append, filterMap_start?_started, List.append_assoc]
      exact (hc.append_left _).trans hp

/-- Each step keeps the account with the caller. -/
theorem Stands.step {machine : Machine} (h : machine.AddsNoWaiter)
    (hs : machine.Stands id job waiter stages) :
    machine.step.Stands id job waiter (stages ++ machine.stagesNow id waiter) := by
  have hn := h.roster.apart
  have hstep := step_does h waiter
  have hcalled := @called_step waiter machine hn
  cases hc : machine.next? with
  | none =>
    rw [hc] at hstep hcalled
    have hnone : machine.ended? id waiter = none := by rw [ended?, hc]
    rw [stagesNow, hnone]
    exact hs.of_sameFor hstep hcalled
  | some command =>
    rw [hc] at hstep hcalled
    dsimp only [Option.elim_some] at hstep hcalled
    -- A command that ends nothing of the caller is like any other step.
    have hidle (hnone : machine.ended? id waiter = none)
        (hothers : ∀ pair ∈ machine.router.roster.waitingFor waiter,
          command.ending? pair.1 = none) :
        machine.step.Stands id job waiter (stages ++ machine.stagesNow id waiter) := by
      rw [Command.calls_of_none hothers] at hcalled
      rw [stagesNow, hnone]
      exact hs.of_sameFor (hstep.sameFor hothers) hcalled
    rcases hs with ⟨rfl, hj, ho, hd⟩ | ⟨-, -, -, hw, -⟩
    · obtain ⟨hh, hwaiter⟩ := heldUnder_of_waitingFor hn (hj ▸ List.mem_singleton_self (id, job))
      have hended : machine.ended? id waiter = command.ending? id := by
        rw [ended?, hc, hh]
        exact if_pos hwaiter
      cases he : command.ending? id with
      | none =>
        refine hidle (hended.trans he) ?_
        rw [hj]
        simpa using he
      | some ending =>
        have hleft := hj ▸ hstep.left
        have howed := ho ▸ hj ▸ hstep.owed
        rw [hj, hd, Command.calls, List.flatMap_singleton, he, List.append_nil] at hcalled
        rw [Command.leaves, List.filter_cons_of_neg (by simp [he])] at hleft
        rw [Command.owes, List.filterMap_cons, he] at howed
        refine .inr ⟨ending, ?_, ?_, hleft.eq_nil, List.perm_singleton.mp howed⟩
        · rw [stagesNow, hended, he, List.nil_append, List.filterMap_append,
            filterMap_ending?_started]
          rfl
        · rw [stagesNow, hended, he, List.nil_append, List.filterMap_append,
            filterMap_start?_started]
          exact hcalled
    · have hnone : machine.ended? id waiter = none := by
        rw [ended?, hc]
        cases hh : machine.router.roster.heldUnder id with
        | none => rfl
        | some other => exact if_neg (heldUnder_of_waitingFor_nil hn hw hh)
      refine hidle hnone ?_
      rw [hw]
      exact fun pair hp => absurd hp List.not_mem_nil

/-- So does any number of steps. -/
theorem Stands.after {machine : Machine} (h : machine.AddsNoWaiter)
    (hs : machine.Stands id job waiter stages) (count : Nat) :
    (machine.after count).Stands id job waiter (stages ++ machine.stages id waiter count) := by
  induction count generalizing machine stages with
  | zero => rwa [Machine.stages, List.append_nil]
  | succ count ih =>
    rw [Machine.stages, ← List.append_assoc]
    exact ih h.step (hs.step h)

end Machine

/-- Any command takes the job through some stages, or none. -/
theorem Router.exists_stages (router : Router) (command : Command) (id : String) (waiter : Nat) :
    ∃ stages, router.Stages command id waiter stages := by
  obtain ⟨count, -, hs⟩ := Machine.comes_carrying router command
  exact ⟨_, count, hs, rfl⟩

/-- Carrying out a command keeps the account with the caller. -/
theorem Router.Stands.perform {router : Router} (h : router.AddsNoWaiter) {command : Command}
    (hc : command.AddsNoWaiter) (hs : router.Stands id job waiter stages) {more : List JobStage}
    (hm : router.Stages command id waiter more) :
    (router.perform command).1.Stands id job waiter (stages ++ more) := by
  obtain ⟨count, hstack, rfl⟩ := hm
  have hstart : (Machine.carrying router command).Stands id job waiter stages := by
    rcases hs with ⟨ht, hw, ho⟩ | ⟨ending, he, hp, hw, ho⟩
    · exact .inl ⟨ht, hw, ho, rfl⟩
    · refine .inr ⟨ending, he, ?_, hw, ho⟩
      exact (List.append_nil _).symm ▸ hp
  have hafter := hstart.after (h.carrying hc) count
  have hrouter : ((Machine.carrying router command).after count).router
      = (router.perform command).1 :=
    Machine.router_of_comes ⟨count, rfl, hstack⟩ (Machine.comes_carrying router command)
  rw [Machine.Stands, Machine.owed, hstack, hrouter, called, List.flatMap_nil,
    List.append_nil] at hafter
  rcases hafter with ⟨ht, hw, ho, -⟩ | hended
  · exact .inl ⟨ht, hw, ho⟩
  · exact .inr hended

/-- The last word that a caller was told is the one it finds. -/
theorem Router.wordFor_eq_head?_told (router : Router) (waiter : Nat) :
    router.wordFor waiter = (router.told waiter).head? := by
  rw [wordFor, told]
  induction router.words with
  | nil => rfl
  | cons pair rest ih =>
    obtain ⟨other, word⟩ := pair
    by_cases ho : other = waiter
    · simp [ho]
    · have hb : (waiter == other) = false := beq_eq_false_iff_ne.mpr (Ne.symm ho)
      rw [List.lookup_cons, hb, List.filter_cons_of_neg (by simpa using ho)]
      exact ih

end Fates

end ReplLink.Routing
