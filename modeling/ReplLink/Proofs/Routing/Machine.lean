import ReplLink.Proofs.Routing.Settlement

/-!
# The router step by step

Callbacks give commands to the router that runs them, so that many jobs may be
half ended at a time. `Machine` carries out commands in single steps, with a
stack of all that is still to be done. Beside the router it keeps a book: one
entry for each successful registration, with the callbacks that were started for
it and the ways in which it was settled. The book is only written to.

The machine does what the router does: `comes_give` says that the router it ends
with is the one that `Router.perform` gives.
-/

namespace ReplLink.Routing

/-- How a registration was settled. -/
inductive Ending where
  /-- By a response with this outcome. -/
  | answered (outcome : Outcome)
  /-- With the connection, under this policy. -/
  | dismissed (policy : Policy)

/-- A successful registration, and what has become of it. -/
structure Registration where
  /-- How many registrations were successful before. -/
  number : Nat
  /-- The id. -/
  id : String
  /-- The job. -/
  job : Job
  /-- The callbacks that were started for it, in order, with their outcomes. -/
  started : List (Outcome × Callback)
  /-- The ways in which it was settled, in order. -/
  endings : List Ending

namespace Registration

/-- The callback that an outcome calls for is started. -/
def start (outcome : Outcome) (entry : Registration) : Registration :=
  { entry with started := entry.started ++ [(outcome, entry.job.callback outcome)] }

/-- The registration is settled. -/
def settle (ending : Ending) (entry : Registration) : Registration :=
  { entry with endings := entry.endings ++ [ending] }

end Registration

/-- The successful registrations, in order. -/
abbrev Book := List Registration

/-- Changes the entry with a number. -/
def Book.amend (book : Book) (number : Nat) (change : Registration → Registration) : Book :=
  book.map fun entry => if entry.number = number then change entry else entry

/-- What a machine still has to do. Where it is about registrations it has them
as they stand in the book. -/
inductive Frame where
  /-- Commands that nobody waits for. -/
  | queue (commands : List Command)
  /-- Commands that a callback gives. -/
  | program (commands : List Command)
  /-- The report of a reply to a callback's command. -/
  | report (reply : Reply)
  /-- The end of a resolution, behind the callback. -/
  | finish (entry : Registration) (outcome : Outcome)
  /-- The jobs that a connection that goes away leaves to be ended. -/
  | dismiss (policy : Policy) (entries : List Registration)
  /-- The end of one of these, behind its callback. -/
  | release (policy : Policy) (entry : Registration)

/-- The commands that a callback gives when it is started. -/
def Callback.frames : Callback → List Frame
  | .run program => [.program program]
  | _ => []

/-- A router at work. -/
structure Machine where
  /-- The router. -/
  router : Router
  /-- What was registered. -/
  book : Book
  /-- The number of the last registration under each id. -/
  numbers : String → Nat
  /-- What is still to be done, first things first. -/
  stack : List Frame

/-- The reply that a command gets. -/
def Router.replyTo (router : Router) : Command → Reply
  | .enter id _ => if router.roster.contains id then .refused (.idTaken id) else .done
  | .route response =>
    match router.roster.heldUnder response.requestId with
    | some _ => .done
    | none => .refused (.idUnknown response.requestId)
  | .endAll _ => .count router.roster.waiting.length
  | .contains id => .truth (router.roster.contains id)
  | .size => .size router.roster.size
  | .describe job => .description job
  | .summary => .text router.summary
  | .deleteFile path => .truth (router.files.isFile path)

/-- What the callback fails with that a policy starts. -/
def Policy.panic? (policy : Policy) (job : Job) : Option Panic :=
  match policy with
  | .abandon => none
  | .fail => job.onFailure.panic?

namespace Machine

/-- The entry of a job that waits under an id. -/
def entryOf (machine : Machine) (id : String) (job : Job) : Registration :=
  ⟨machine.numbers id, id, job, [], []⟩

/-- Starts the callback that an outcome calls for. -/
def start (machine : Machine) (entry : Registration) (outcome : Outcome) : Machine :=
  { machine with
    router := machine.router.note ((entry.job.callback outcome).announce entry.job outcome)
    book := machine.book.amend entry.number (·.start outcome)
    stack := (entry.job.callback outcome).frames ++ machine.stack }

/-- Registers a job under a free id. -/
def register (machine : Machine) (id : String) (job : Job) : Machine :=
  { machine with
    router := { machine.router.layFiles job with
      roster := machine.router.roster.put id (.held job) }
    book := machine.book ++ [⟨machine.book.length, id, job, [], []⟩]
    numbers := fun other => if other = id then machine.book.length else machine.numbers other }

/-- Checks out the job that waits under a response's id and starts its
callback. -/
def resolve (machine : Machine) (response : Response) (job : Job) : Machine :=
  let entry := machine.entryOf response.requestId job
  start
    { machine with
      router := Router.showFailure
        { machine.router with roster := machine.router.roster.put response.requestId .out }
        job response.outcome
      stack := .finish (entry.start response.outcome) response.outcome :: machine.stack }
    entry response.outcome

/-- Takes all jobs that wait out of the roster. -/
def takeAll (machine : Machine) (policy : Policy) : Machine :=
  { machine with
    router := { machine.router with roster := machine.router.roster.checkedOut }
    stack := .dismiss policy
      (machine.router.roster.waiting.map fun pair => machine.entryOf pair.1 pair.2)
        :: machine.stack }

/-- Begins to carry out a command. -/
def give (machine : Machine) : Command → Machine
  | .enter id job =>
    if machine.router.roster.contains id then
      { machine with router := machine.router.layFiles job }
    else machine.register id job
  | .route response =>
    match machine.router.roster.heldUnder response.requestId with
    | some job => machine.resolve response job
    | none =>
      { machine with
        router := machine.router.note [.notice (.unknownResponse response.requestId)] }
  | .endAll policy => machine.takeAll policy
  | .describe job => { machine with router := machine.router.layFiles job }
  | .deleteFile path =>
    { machine with
      router := { machine.router with files := machine.router.files.delete path } }
  | .contains _ => machine
  | .size => machine
  | .summary => machine

/-- Notes the end of a job whose connection went away, and starts the callback
that the policy asks for. -/
def dismissOne (machine : Machine) (policy : Policy) (entry : Registration) : Machine :=
  let noted :=
    { machine with
      router := machine.router.note [.notice (.ended entry.id entry.job.origin policy)] }
  match policy with
  | .abandon => { noted with stack := .release .abandon entry :: machine.stack }
  | .fail =>
    start
      { noted with
        stack := .release .fail (entry.start (.failure Router.connectionLost)) :: machine.stack }
      entry (.failure Router.connectionLost)

/-- Does the first thing that is to be done. -/
def step (machine : Machine) : Machine :=
  match machine.stack with
  | [] => machine
  | .queue [] :: rest => { machine with stack := rest }
  | .queue (command :: others) :: rest =>
    give { machine with stack := .queue others :: rest } command
  | .program [] :: rest => { machine with stack := rest }
  | .program (command :: others) :: rest =>
    give
      { machine with
        stack := .report (machine.router.replyTo command) :: .program others :: rest }
      command
  | .report reply :: rest =>
    { machine with
      router := machine.router.note [.nested reply machine.router.ids], stack := rest }
  | .finish entry outcome :: rest =>
    { machine with
      router := machine.router.finish entry.id entry.job outcome
        (entry.job.callback outcome).panic?
      book := machine.book.amend entry.number (·.settle (.answered outcome))
      stack := rest }
  | .dismiss _ [] :: rest => { machine with stack := rest }
  | .dismiss policy (entry :: others) :: rest =>
    dismissOne { machine with stack := .dismiss policy others :: rest } policy entry
  | .release policy entry :: rest =>
    { machine with
      router := ((machine.router.notePanic entry.id (policy.panic? entry.job)).release
        entry.job).tell entry.job (Router.lastWord policy)
      book := machine.book.amend entry.number (·.settle (.dismissed policy))
      stack := rest }

/-- The machine after so many steps. -/
def after (machine : Machine) : Nat → Machine
  | 0 => machine
  | count + 1 => machine.step.after count

theorem after_add (machine : Machine) (first second : Nat) :
    machine.after (first + second) = (machine.after first).after second := by
  induction first generalizing machine with
  | zero => rw [Nat.zero_add, after]
  | succ first ih => rw [Nat.succ_add, after, after, ih]

/-- At some time the machine comes to this router and this stack. -/
def Comes (machine : Machine) (router : Router) (stack : List Frame) : Prop :=
  ∃ count, (machine.after count).router = router ∧ (machine.after count).stack = stack

theorem Comes.refl (machine : Machine) : machine.Comes machine.router machine.stack :=
  ⟨0, rfl, rfl⟩

/-- The machine comes to where it comes from the next step. -/
theorem Comes.step {machine : Machine} {router : Router} {stack : List Frame}
    (h : machine.step.Comes router stack) : machine.Comes router stack := by
  obtain ⟨count, hr, hs⟩ := h
  exact ⟨count + 1, hr, hs⟩

/-- It goes on from where it comes to. -/
theorem Comes.trans {machine : Machine} {router next : Router} {stack rest : List Frame}
    (h : machine.Comes router stack)
    (h' : ∀ now : Machine, now.router = router → now.stack = stack → now.Comes next rest) :
    machine.Comes next rest := by
  obtain ⟨count, hr, hs⟩ := h
  obtain ⟨more, hr', hs'⟩ := h' _ hr hs
  refine ⟨count + more, ?_, ?_⟩
  · rw [after_add, hr']
  · rw [after_add, hs']

end Machine

namespace Router

/-- How a callback fails does not depend on the router. -/
theorem call_snd (router : Router) (job : Job) (outcome : Outcome) (callback : Callback) :
    (router.call job outcome callback).2 = callback.panic? := by
  cases callback with
  | silent => rw [call_silent]; rfl
  | report => rw [call_report]; rfl
  | acknowledge => rw [call_acknowledge]; rfl
  | panic what => rw [call_panic]; rfl
  | run program => rw [call_run]; rfl

theorem dismiss_snd (router : Router) (policy : Policy) (job : Job) :
    (router.dismiss policy job).2 = policy.panic? job := by
  cases policy with
  | abandon => rfl
  | fail => exact call_snd router job _ job.onFailure

theorem endOne_eq (router : Router) (policy : Policy) (id : String) (job : Job) :
    router.endOne policy id job
      = ((((router.note [.notice (.ended id job.origin policy)]).dismiss policy job).1.notePanic id
          (policy.panic? job)).release job).tell job (lastWord policy) := by
  rw [← dismiss_snd (router.note [.notice (.ended id job.origin policy)])]
  rfl

/-- A command does not make the registered jobs heavier by more than itself. -/
theorem weight_perform_le (router : Router) (command : Command) :
    (router.perform command).1.weight ≤ router.weight + command.weight :=
  (router.performWithin command).2

/-- The end of one job does not make the others heavier by more than that job. -/
theorem weight_endOne_le (router : Router) (policy : Policy) (id : String) (job : Job) :
    (router.endOne policy id job).weight ≤ router.weight + job.onFailure.weight := by
  have hd := ((router.note [.notice (.ended id job.origin policy)]).dismissWithin policy job).2
  rw [dismissWithin_eq] at hd
  rw [endOne, weight_tell, weight_release, weight_notePanic]
  exact hd

/-- The reply to a command is known when it is given. -/
theorem perform_snd (router : Router) (command : Command) :
    (router.perform command).2 = router.replyTo command := by
  cases command with
  | enter id job =>
    rw [perform_enter, Roster.enter?, replyTo]
    cases router.roster.contains id <;> rfl
  | route response =>
    rw [perform_route, Roster.checkOut_eq, replyTo]
    cases router.roster.heldUnder response.requestId <;> rfl
  | endAll policy => rw [perform_endAll]; rfl
  | contains id => simp [perform, performWithin, replyTo]
  | size => simp [perform, performWithin, replyTo]
  | describe job => simp [perform, performWithin, replyTo]
  | summary => simp [perform, performWithin, replyTo]
  | deleteFile path => simp [perform, performWithin, replyTo]

end Router

namespace Machine

/-- Programs that, with the registered jobs, weigh less than a bound are run to
the end. -/
def RunsPrograms (bound : Nat) : Prop :=
  ∀ (machine : Machine) (program : List Command) (rest : List Frame),
    machine.stack = .program program :: rest →
    machine.router.weight + Command.weights program < bound →
    machine.Comes (machine.router.performAll program) rest

/-- A callback is run to the end. -/
theorem comes_start {bound : Nat} (h : RunsPrograms bound) (machine : Machine)
    (entry : Registration) (outcome : Outcome)
    (hw : machine.router.weight + (entry.job.callback outcome).weight ≤ bound) :
    (machine.start entry outcome).Comes
      (machine.router.call entry.job outcome (entry.job.callback outcome)).1 machine.stack := by
  have hstack : (machine.start entry outcome).stack
      = (entry.job.callback outcome).frames ++ machine.stack := rfl
  have hrouter : (machine.start entry outcome).router
      = machine.router.note ((entry.job.callback outcome).announce entry.job outcome) := rfl
  have hstart := Comes.refl (machine.start entry outcome)
  rw [hstack, hrouter] at hstart
  cases hc : entry.job.callback outcome with
  | run program =>
    rw [hc] at hstack hrouter hw
    have hrun := h (machine.start entry outcome) program machine.stack hstack (by
      rw [hrouter, Router.weight_note]
      rw [Callback.weight] at hw
      omega)
    rw [hrouter] at hrun
    rwa [Router.call_run]
  | silent =>
    rw [hc] at hstart
    rwa [Router.call_of_isPassive rfl]
  | report =>
    rw [hc] at hstart
    rwa [Router.call_of_isPassive rfl]
  | acknowledge =>
    rw [hc] at hstart
    rwa [Router.call_of_isPassive rfl]
  | panic what =>
    rw [hc] at hstart
    rwa [Router.call_of_isPassive rfl]

/-- The jobs of registrations, under their ids. -/
def jobsOf (entries : List Registration) : List (String × Job) :=
  entries.map fun entry => (entry.id, entry.job)

/-- One job of a connection that went away is ended. -/
theorem comes_dismissOne {bound : Nat} (h : RunsPrograms bound) (machine : Machine)
    (policy : Policy) (entry : Registration)
    (hw : machine.router.weight + entry.job.onFailure.weight ≤ bound) :
    (machine.dismissOne policy entry).Comes
      (machine.router.endOne policy entry.id entry.job) machine.stack := by
  let noted := machine.router.note [.notice (.ended entry.id entry.job.origin policy)]
  -- Behind the callback one more step releases the job.
  have hrelease (now : Machine) (left : Registration) (hid : left.id = entry.id)
      (hjob : left.job = entry.job) (hr : now.router = (noted.dismiss policy entry.job).1)
      (hs : now.stack = .release policy left :: machine.stack) :
      now.Comes (machine.router.endOne policy entry.id entry.job) machine.stack := by
    refine Comes.step ⟨0, ?_, ?_⟩
    · rw [after, step, hs]
      dsimp only
      rw [hr, hid, hjob, Router.endOne_eq]
    · rw [after, step, hs]
  cases policy with
  | abandon => exact hrelease _ entry rfl rfl rfl rfl
  | fail =>
    have hs := comes_start h
      { machine with
        router := noted
        stack := .release .fail (entry.start (.failure Router.connectionLost)) :: machine.stack }
      entry (.failure Router.connectionLost) hw
    exact hs.trans fun now hr hs => hrelease now (entry.start _) rfl rfl hr hs

/-- All of them are ended. -/
theorem comes_dismiss {bound : Nat} (h : RunsPrograms bound) (policy : Policy)
    (entries : List Registration) {machine : Machine} {rest : List Frame}
    (hs : machine.stack = .dismiss policy entries :: rest)
    (hw : machine.router.weight + Roster.jobsWeight (jobsOf entries) ≤ bound) :
    machine.Comes (machine.router.endAll policy (jobsOf entries)) rest := by
  induction entries generalizing machine with
  | nil =>
    refine Comes.step ⟨0, ?_, ?_⟩
    · rw [after, step, hs, jobsOf, List.map_nil, Router.endAll_nil]
    · rw [after, step, hs]
  | cons entry others ih =>
    have hjobs : jobsOf (entry :: others) = (entry.id, entry.job) :: jobsOf others := rfl
    have hlight := weight_callback_lt entry.job (.failure Router.connectionLost)
    have hle := Router.weight_endOne_le machine.router policy entry.id entry.job
    rw [hjobs, Roster.jobsWeight] at hw
    rw [JobOf.callback] at hlight
    refine Comes.step ?_
    rw [step, hs, hjobs, Router.endAll_cons]
    have hone := comes_dismissOne h { machine with stack := .dismiss policy others :: rest } policy
      entry (show machine.router.weight + entry.job.onFailure.weight ≤ bound by omega)
    refine hone.trans fun now hr hs' => ?_
    have hwnow : now.router.weight + Roster.jobsWeight (jobsOf others) ≤ bound := by
      rw [hr]
      exact Nat.le_trans (Nat.add_le_add_right hle _) (by omega)
    have hrest := ih hs' hwnow
    rwa [hr] at hrest

/-- A response is routed to the end, behind the callback that it starts. -/
theorem comes_resolve {bound : Nat} (h : RunsPrograms bound) (machine : Machine)
    {response : Response} {job : Job}
    (hh : machine.router.roster.heldUnder response.requestId = some job)
    (hw : machine.router.weight ≤ bound) :
    (machine.resolve response job).Comes (machine.router.perform (.route response)).1
      machine.stack := by
  have hchecked : Roster.checkOut machine.router.roster response.requestId
      = some (job, machine.router.roster.put response.requestId .out) := by
    rw [Roster.checkOut_eq, hh]
    rfl
  have hleft := Roster.weight_checkOut_le hchecked
  have hlight := weight_callback_lt job response.outcome
  let shown := Router.showFailure
    { machine.router with roster := machine.router.roster.put response.requestId .out }
    job response.outcome
  have hshown : shown.weight
      = Roster.weight (machine.router.roster.put response.requestId .out) := by
    rw [Router.weight_showFailure]
    rfl
  have hcall := comes_start h
    { machine with
      router := shown
      stack := .finish ((machine.entryOf response.requestId job).start response.outcome)
        response.outcome :: machine.stack }
    (machine.entryOf response.requestId job) response.outcome (by
      have hm : machine.router.weight = Roster.weight machine.router.roster := rfl
      dsimp only [entryOf]
      omega)
  rw [Router.perform_route, hchecked]
  refine hcall.trans fun now hr hs => Comes.step ⟨0, ?_, ?_⟩
  · rw [after, step, hs]
    dsimp only [Registration.start, entryOf]
    rw [hr, ← Router.call_snd shown job response.outcome]
    rfl
  · rw [after, step, hs]

theorem jobsOf_entryOf (machine : Machine) (pairs : List (String × Job)) :
    jobsOf (pairs.map fun pair => machine.entryOf pair.1 pair.2) = pairs := by
  rw [jobsOf, List.map_map]
  exact List.map_id pairs

/-- The jobs that are taken out of the roster are ended. -/
theorem comes_takeAll {bound : Nat} (h : RunsPrograms bound) (machine : Machine)
    (policy : Policy) (hw : machine.router.weight ≤ bound) :
    (machine.takeAll policy).Comes (machine.router.perform (.endAll policy)).1
      machine.stack := by
  have hjobs := jobsOf_entryOf machine machine.router.roster.waiting
  have htaken : (machine.takeAll policy).stack
      = .dismiss policy (machine.router.roster.waiting.map fun pair =>
          machine.entryOf pair.1 pair.2) :: machine.stack := rfl
  have hd := comes_dismiss h policy _ htaken (by
    rw [hjobs, Nat.add_comm]
    exact Nat.le_trans (Roster.weight_takeAll_le machine.router.roster) hw)
  rw [hjobs] at hd
  rw [Router.perform_endAll]
  exact hd

/-- A command is carried out to the end. -/
theorem comes_give_within {bound : Nat} (h : RunsPrograms bound) (machine : Machine)
    (command : Command) (hw : machine.router.weight + command.weight ≤ bound) :
    (machine.give command).Comes (machine.router.perform command).1 machine.stack := by
  have hlight : machine.router.weight ≤ bound := Nat.le_of_add_right_le hw
  cases command with
  | enter id job =>
    have hg := Comes.refl (machine.give (.enter id job))
    rw [Router.perform_enter, Roster.enter?]
    rw [give] at hg ⊢
    cases hc : machine.router.roster.contains id with
    | true =>
      rw [hc] at hg
      exact hg
    | false =>
      rw [hc] at hg
      exact hg
  | route response =>
    rw [give]
    cases hh : machine.router.roster.heldUnder response.requestId with
    | some job => exact comes_resolve h machine hh hlight
    | none =>
      rw [Router.perform_route, Roster.checkOut_eq, hh]
      exact Comes.refl _
  | endAll policy => exact comes_takeAll h machine policy hlight
  | contains id => exact ⟨0, by simp [after, give, Router.perform, Router.performWithin], rfl⟩
  | size => exact ⟨0, by simp [after, give, Router.perform, Router.performWithin], rfl⟩
  | describe job => exact ⟨0, by simp [after, give, Router.perform, Router.performWithin], rfl⟩
  | summary => exact ⟨0, by simp [after, give, Router.perform, Router.performWithin], rfl⟩
  | deleteFile path =>
    exact ⟨0, by simp [after, give, Router.perform, Router.performWithin], rfl⟩

/-- Programs of any weight are run to the end. -/
theorem runsPrograms (bound : Nat) : RunsPrograms bound := by
  induction bound with
  | zero =>
    intro machine program rest hs hw
    exact absurd hw (Nat.not_lt_zero _)
  | succ bound ih =>
    intro machine program rest hs hw
    induction program generalizing machine with
    | nil =>
      refine Comes.step ⟨0, ?_, ?_⟩
      · rw [after, step, hs, Router.performAll_nil]
      · rw [after, step, hs]
    | cons command others inner =>
      rw [Command.weights] at hw
      refine Comes.step ?_
      rw [step, hs, Router.performAll_cons, Router.perform_snd]
      have hg := comes_give_within ih
        { machine with
          stack := .report (machine.router.replyTo command) :: .program others :: rest }
        command (show machine.router.weight + command.weight ≤ bound by omega)
      refine hg.trans fun now hr hs' => ?_
      -- The reply is reported before the next command is given.
      have hreport : now.step =
          { now with
            router := now.router.note [.nested (machine.router.replyTo command) now.router.ids]
            stack := .program others :: rest } := by
        rw [step, hs']
      have hweight := Router.weight_perform_le machine.router command
      have hrest := inner now.step (by rw [hreport]) (by
        rw [hreport, Router.weight_note, hr]
        exact Nat.lt_of_le_of_lt (Nat.add_le_add_right hweight _) (by omega))
      refine Comes.step ?_
      rwa [hreport, hr] at hrest ⊢

/-- The machine does what the router does: from any command it comes to the
router that carries the command out, and to what was to be done besides. -/
theorem comes_give (machine : Machine) (command : Command) :
    (machine.give command).Comes (machine.router.perform command).1 machine.stack :=
  comes_give_within (runsPrograms _) machine command (Nat.le_refl _)

/-- A machine with nothing but commands to give. -/
def idle (frontEnd : FrontEnd) (commands : List Command) : Machine :=
  ⟨.idle frontEnd, [], fun _ => 0, [.queue commands]⟩

/-- The router after commands that were given one after the other. -/
def performed (frontEnd : FrontEnd) (commands : List Command) : Router :=
  commands.foldl (fun router command => (router.perform command).1) (.idle frontEnd)

/-- Commands of a queue are carried out one after the other. -/
theorem comes_queue (done rest : List Command) {machine : Machine} {stack : List Frame}
    (hs : machine.stack = .queue (done ++ rest) :: stack) :
    machine.Comes
      (done.foldl (fun router command => (router.perform command).1) machine.router)
      (.queue rest :: stack) := by
  induction done generalizing machine with
  | nil => exact ⟨0, rfl, hs⟩
  | cons command others ih =>
    refine Comes.step ?_
    rw [step, hs]
    refine (comes_give { machine with stack := .queue (others ++ rest) :: stack } command).trans
      fun now hr hs' => ?_
    have hrest := ih hs'
    rwa [hr] at hrest

end Machine

end ReplLink.Routing
