import ReplLink.Routing.Event
import ReplLink.Routing.Roster

/-!
# Routing responses to jobs

A router carries out commands on its roster, on the files that jobs are
accountable for and on the log of events. Resolving a job runs the callback
that its outcome calls for and then cleans up, whether or not the callback
failed: the job's file is deleted, the busy indicator stops, the id is freed
and a waiting caller is told, in this order. When a connection goes away all
waiting jobs are ended, in the order of their ids.

A callback may give commands to the router that runs it, so carrying out a
command can mean carrying out others in between. It comes to an end because a
job leaves the roster before its callbacks run: the weight of the roster
and of the commands still to be carried out together goes down with each step.
-/

namespace ReplLink.Routing

/-- What a waiting caller is told: the outcome, or that there will be none. -/
abbrev Word := Option Outcome

/-- A router with all that it works on. -/
structure Router where
  /-- Who is told of busy times and failures. -/
  frontEnd : FrontEnd
  /-- The registered jobs. -/
  roster : Roster
  /-- The files that jobs are accountable for. -/
  files : Files
  /-- What the waiting callers have been told, the last one first. -/
  words : List (Nat × Word)
  /-- What has happened, in order. -/
  log : List Event

namespace Router

/-- A router with nothing registered. -/
def idle (frontEnd : FrontEnd) : Router := ⟨frontEnd, .empty, .empty, [], []⟩

/-- Adds to the log. -/
def note (router : Router) (events : List Event) : Router :=
  { router with log := router.log ++ events }

/-- Puts the files of a job in place. -/
def layFiles (router : Router) (job : Job) : Router :=
  { router with files := job.attached.foldl Files.lay router.files }

/-- Deletes the file of a job. -/
def deleteFile (router : Router) (job : Job) : Router :=
  match job.attachment with
  | some attachment => { router with files := router.files.delete attachment.path }
  | none => router

/-- Tells a caller who waits for a job. -/
def tell (router : Router) (job : Job) (word : Word) : Router :=
  match job.waiter with
  | some waiter => { router with words := (waiter, word) :: router.words }
  | none => router

/-- What a caller has been told, if anything. -/
def wordFor (router : Router) (waiter : Nat) : Option Word :=
  router.words.lookup waiter

/-- Shows a failure in the viewer, if the job wants that. -/
def showFailure (router : Router) (job : Job) (outcome : Outcome) : Router :=
  match outcome with
  | .failure failure =>
    if job.showsFailures then router.note (router.frontEnd.show job.origin failure)
    else router
  | .success _ => router

/-- Reports a callback's failure. -/
def notePanic (router : Router) (id : String) : Option Panic → Router
  | some what => router.note [.notice (.panicked id what)]
  | none => router

/-- Deletes a job's file and stops the busy indicator. -/
def release (router : Router) (job : Job) : Router :=
  let router := router.deleteFile job
  router.note (router.frontEnd.stop job.origin)

/-- The end of a resolution, after the callback. -/
def finish (router : Router) (id : String) (job : Job) (outcome : Outcome)
    (panic : Option Panic) : Router :=
  let router := (router.notePanic id panic).release job
  { router with roster := router.roster.free id }.tell job (some outcome)

/-- The failure of the jobs of a connection that went away. -/
def connectionLost : Failure := ⟨"connection closed", []⟩

/-- What a waiting caller is told when its connection goes away. -/
def lastWord : Policy → Word
  | .abandon => none
  | .fail => some (.failure connectionLost)

/-- The registered ids, in order. -/
def ids (router : Router) : List String := router.roster.keys

/-- The router in words, for a log or a debugger. -/
def summary (router : Router) : String :=
  "Dispatcher \x7b registry: Registry \x7b outstanding: " ++ toString router.roster.size
    ++ " \x7d, hooks: Hooks \x7b .. \x7d \x7d"

/-- The weight of the registered jobs. -/
def weight (router : Router) : Nat := Roster.weight router.roster

@[simp] theorem weight_note (router : Router) (events : List Event) :
    (router.note events).weight = router.weight := rfl

@[simp] theorem weight_deleteFile (router : Router) (job : Job) :
    (router.deleteFile job).weight = router.weight := by
  unfold deleteFile; split <;> rfl

@[simp] theorem weight_tell (router : Router) (job : Job) (word : Word) :
    (router.tell job word).weight = router.weight := by
  unfold tell; split <;> rfl

@[simp] theorem weight_showFailure (router : Router) (job : Job) (outcome : Outcome) :
    (router.showFailure job outcome).weight = router.weight := by
  unfold showFailure; split
  · split <;> rfl
  · rfl

@[simp] theorem weight_notePanic (router : Router) (id : String) (panic : Option Panic) :
    (router.notePanic id panic).weight = router.weight := by
  cases panic <;> rfl

@[simp] theorem weight_release (router : Router) (job : Job) :
    (router.release job).weight = router.weight := by
  simp [release]

/-- The registered jobs weigh no more when one of them is finished. -/
theorem weight_finish_le (router : Router) (id : String) (job : Job) (outcome : Outcome)
    (panic : Option Panic) : (router.finish id job outcome panic).weight ≤ router.weight := by
  simp only [finish, weight_tell]
  refine Nat.le_trans (Roster.weight_erase_le _ id) (Nat.le_of_eq ?_)
  exact (weight_release _ _).trans (weight_notePanic _ _ _)

/-- A router whose jobs weigh no more than `bound`, with a result. -/
abbrev Within (bound : Nat) (α : Type) := { state : Router × α // state.1.weight ≤ bound }

mutual

/-- Runs a callback of a job and tells how it failed, if it did. -/
def callWithin (router : Router) (job : Job) (outcome : Outcome) (callback : Callback) :
    Within (router.weight + callback.weight) (Option Panic) :=
  match callback with
  | .panic what =>
    ⟨(router.note (Callback.announce (.panic what) job outcome), some what), by simp⟩
  | .run program =>
    match performAllWithin (router.note (Callback.announce (.run program) job outcome)) program with
    | ⟨(ran, ()), bound⟩ => ⟨(ran, none), by
        simp only [weight_note, Callback.weight] at bound ⊢
        omega⟩
  | .silent => ⟨(router, none), by simp⟩
  | .report => ⟨(router.note (Callback.announce .report job outcome), none), by simp⟩
  | .acknowledge => ⟨(router.note (Callback.announce .acknowledge job outcome), none), by simp⟩
termination_by router.weight + callback.weight
decreasing_by simp only [weight_note, Callback.weight]; omega

/-- Runs the failure callback of a job whose connection went away, if the
policy says so. -/
def dismissWithin (router : Router) (policy : Policy) (job : Job) :
    Within (router.weight + job.onFailure.weight) (Option Panic) :=
  match policy with
  | .abandon => ⟨(router, none), by simp⟩
  | .fail => callWithin router job (.failure connectionLost) job.onFailure
termination_by router.weight + job.onFailure.weight + 1

/-- Ends jobs that are out of the roster already, one after the other. -/
def endWithin (router : Router) (policy : Policy) (jobs : List (String × Job)) :
    Within (router.weight + Roster.jobsWeight jobs) Unit :=
  match jobs with
  | [] => ⟨(router, ()), by simp⟩
  | (id, job) :: rest =>
    have lighter : job.onFailure.weight + 1 < job.weight :=
      weight_callback_lt job (.failure connectionLost)
    match dismissWithin (router.note [.notice (.ended id job.origin policy)]) policy job with
    | ⟨(dismissed, panic), bound⟩ =>
      match endWithin (((dismissed.notePanic id panic).release job).tell job (lastWord policy))
        policy rest with
      | ⟨ended, bound⟩ => ⟨ended, by
          simp only [weight_note, weight_tell, weight_release, weight_notePanic,
            Roster.jobsWeight] at *
          omega⟩
termination_by router.weight + Roster.jobsWeight jobs
decreasing_by
  all_goals
    simp only [weight_note, weight_tell, weight_release, weight_notePanic,
      Roster.jobsWeight] at *
    omega

/-- Carries out a command. -/
def performWithin (router : Router) (command : Command) :
    Within (router.weight + command.weight) Reply :=
  match command with
  | .enter id job =>
    match registered : Roster.enter? router.roster id job with
    | some roster =>
      ⟨({ router.layFiles job with roster }, .done), by
        have := Roster.weight_register?_le registered
        simp only [weight, Command.weight] at *
        omega⟩
    | none => ⟨(router.layFiles job, .refused (.idTaken id)), Nat.le_add_right _ _⟩
  | .route response =>
    match found : Roster.checkOut router.roster response.requestId with
    | none =>
      ⟨(router.note [.notice (.unknownResponse response.requestId)],
        .refused (.idUnknown response.requestId)), by simp⟩
    | some (job, roster) =>
      have left := Roster.weight_checkOut_le found
      have lighter := weight_callback_lt job response.outcome
      match callWithin (showFailure { router with roster } job response.outcome) job
        response.outcome (job.callback response.outcome) with
      | ⟨(called, panic), bound⟩ =>
        ⟨(called.finish response.requestId job response.outcome panic, .done), by
          have := weight_finish_le called response.requestId job response.outcome panic
          simp only [weight_showFailure] at bound
          simp only [weight] at *
          omega⟩
  | .endAll policy =>
    have left := Roster.weight_takeAll_le router.roster
    match endWithin { router with roster := (Roster.takeAll router.roster).2 } policy
      (Roster.takeAll router.roster).1 with
    | ⟨(ended, ()), bound⟩ =>
      ⟨(ended, .count (Roster.takeAll router.roster).1.length), by
        simp only [weight] at *
        omega⟩
  | .contains id => ⟨(router, .truth (router.roster.contains id)), by simp⟩
  | .size => ⟨(router, .size router.roster.size), by simp⟩
  | .describe job => ⟨(router.layFiles job, .description job), Nat.le_add_right _ _⟩
  | .summary => ⟨(router, .text router.summary), by simp⟩
  | .deleteFile path =>
    ⟨({ router with files := router.files.delete path },
      .truth (router.files.isFile path)), by simp [weight]⟩
termination_by router.weight + command.weight
decreasing_by
  · simp only [weight_showFailure, Command.weight]
    simp only [weight] at *
    omega
  · simp only [weight, Command.weight] at *
    omega

/-- Carries out the commands of a callback and reports each one's reply. -/
def performAllWithin (router : Router) (commands : List Command) :
    Within (router.weight + Command.weights commands) Unit :=
  match commands with
  | [] => ⟨(router, ()), by simp⟩
  | command :: rest =>
    match performWithin router command with
    | ⟨(performed, reply), bound⟩ =>
      match performAllWithin (performed.note [.nested reply performed.ids]) rest with
      | ⟨others, bound⟩ => ⟨others, by
          simp only [weight_note, Command.weights] at *
          omega⟩
termination_by router.weight + Command.weights commands
decreasing_by
  all_goals
    simp only [weight_note, Command.weights] at *
    omega

end

/-- Runs a callback of a job. -/
def call (router : Router) (job : Job) (outcome : Outcome) (callback : Callback) :
    Router × Option Panic :=
  (router.callWithin job outcome callback).1

/-- Ends jobs that are out of the roster already. -/
def endAll (router : Router) (policy : Policy) (jobs : List (String × Job)) : Router :=
  (router.endWithin policy jobs).1.1

/-- Carries out a command. -/
def perform (router : Router) (command : Command) : Router × Reply :=
  (router.performWithin command).1

/-- Carries out the commands of a callback, one after the other. -/
def performAll (router : Router) (commands : List Command) : Router :=
  (router.performAllWithin commands).1.1

/-- A silent callback does nothing and cannot fail. -/
@[simp] theorem call_silent (router : Router) (job : Job) (outcome : Outcome) :
    router.call job outcome .silent = (router, none) := by
  simp [call, callWithin]

/-- A callback that reports tells of the outcome and does not fail. -/
@[simp] theorem call_report (router : Router) (job : Job) (outcome : Outcome) :
    router.call job outcome .report
      = (router.note (Callback.announce .report job outcome), none) := by
  simp [call, callWithin]

/-- A callback that acknowledges tells of the job and does not fail. -/
@[simp] theorem call_acknowledge (router : Router) (job : Job) (outcome : Outcome) :
    router.call job outcome .acknowledge
      = (router.note (Callback.announce .acknowledge job outcome), none) := by
  simp [call, callWithin]

/-- A callback that panics may tell of the outcome first, and its panic is handed back. -/
@[simp] theorem call_panic (router : Router) (job : Job) (outcome : Outcome)
    (what : Panic) :
    router.call job outcome (.panic what)
      = (router.note (Callback.announce (.panic what) job outcome), some what) := by
  simp [call, callWithin]

/-- A callback that gives commands gives them after its report. -/
@[simp] theorem call_run (router : Router) (job : Job) (outcome : Outcome)
    (program : List Command) :
    router.call job outcome (.run program)
      = ((router.note (Callback.announce (.run program) job outcome)).performAll program,
          none) := by
  simp only [call, callWithin, performAll]

@[simp] theorem performAll_nil (router : Router) : router.performAll [] = router := by
  simp [performAll, performAllWithin]

/-- Each command of a callback is answered before the next one is given. -/
theorem performAll_cons (router : Router) (command : Command) (rest : List Command) :
    router.performAll (command :: rest)
      = ((router.perform command).1.note
          [.nested (router.perform command).2 (router.perform command).1.ids]).performAll
          rest := by
  simp only [performAll, performAllWithin, perform]

/-- Under the failing policy, the failure callback of a job whose connection
went away runs. -/
def dismiss (router : Router) (policy : Policy) (job : Job) : Router × Option Panic :=
  match policy with
  | .abandon => (router, none)
  | .fail => router.call job (.failure connectionLost) job.onFailure

/-- The bound on the weight plays no part in what a dismissal does. -/
theorem dismissWithin_eq (router : Router) (policy : Policy) (job : Job) :
    (router.dismissWithin policy job).1 = router.dismiss policy job := by
  cases policy <;> simp only [dismissWithin, dismiss, call]

/-- The end of one job whose connection went away and that is out of the
roster. -/
def endOne (router : Router) (policy : Policy) (id : String) (job : Job) : Router :=
  let (dismissed, panic) :=
    (router.note [.notice (.ended id job.origin policy)]).dismiss policy job
  ((dismissed.notePanic id panic).release job).tell job (lastWord policy)

@[simp] theorem endAll_nil (router : Router) (policy : Policy) :
    router.endAll policy [] = router := by
  simp [endAll, endWithin]

/-- Jobs are ended one after the other. -/
theorem endAll_cons (router : Router) (policy : Policy) (id : String) (job : Job)
    (rest : List (String × Job)) :
    router.endAll policy ((id, job) :: rest)
      = (router.endOne policy id job).endAll policy rest := by
  simp only [endAll, endWithin]
  exact congrArg
    (fun dismissed : Router × Option Panic =>
      endAll (((dismissed.1.notePanic id dismissed.2).release job).tell job (lastWord policy))
        policy rest)
    (dismissWithin_eq _ policy job)

/-- A registration puts the job's files in place, whether or not it succeeds. -/
theorem perform_enter (router : Router) (id : String) (job : Job) :
    router.perform (.enter id job)
      = match Roster.enter? router.roster id job with
        | some roster => ({ router.layFiles job with roster }, .done)
        | none => (router.layFiles job, .refused (.idTaken id)) := by
  simp only [perform, performWithin]
  split <;> simp_all

/-- Resolving shows the failure, runs the callback and cleans up. -/
theorem perform_route (router : Router) (response : Response) :
    router.perform (.route response)
      = match Roster.checkOut router.roster response.requestId with
        | none =>
          (router.note [.notice (.unknownResponse response.requestId)],
            .refused (.idUnknown response.requestId))
        | some (job, roster) =>
          let called := (showFailure { router with roster } job response.outcome).call job
            response.outcome (job.callback response.outcome)
          (called.1.finish response.requestId job response.outcome called.2, .done) := by
  simp only [perform, performWithin, call]
  split <;> simp_all

/-- Ending all jobs ends those that were waiting when the command was given. -/
theorem perform_endAll (router : Router) (policy : Policy) :
    router.perform (.endAll policy)
      = (endAll { router with roster := (Roster.takeAll router.roster).2 } policy
          (Roster.takeAll router.roster).1,
        .count (Roster.takeAll router.roster).1.length) := by
  simp only [perform, performWithin, endAll]

end Router

end ReplLink.Routing
