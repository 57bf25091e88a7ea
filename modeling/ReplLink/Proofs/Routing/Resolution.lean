import ReplLink.Proofs.Routing.Absence

/-!
# The end of a resolution

Whatever a callback does, the resolution that has started it goes on to its end: a failure was
shown before, the callback's own failure is noted, the job's file is deleted, the busy time
ends, the id is freed and a waiting caller is told, each once and in this order.
-/

namespace ReplLink.Routing

/-- The commands that a callback gives. -/
def Callback.program : Callback → List Command
  | .run program => program
  | _ => []

theorem Callback.program_of_isPassive {callback : Callback} (h : callback.isPassive = true) :
    callback.program = [] := by
  cases callback with
  | run program => exact absurd h (by simp [Callback.isPassive])
  | silent => rfl
  | report => rfl
  | acknowledge => rfl
  | panic what => rfl

namespace Router

/-- A callback tells the editor, and then its commands are carried out. -/
theorem call_eq (router : Router) (job : Job) (outcome : Outcome) (callback : Callback) :
    router.call job outcome callback
      = ((router.note (callback.announce job outcome)).performAll callback.program,
        callback.panic?) := by
  by_cases h : callback.isPassive = true
  · rw [call_of_isPassive h, Callback.program_of_isPassive h, performAll_nil]
  · cases callback with
    | run program => exact call_run router job outcome program
    | _ => exact absurd rfl h

/-- The router when the callback of a job begins to give commands: the job is out, these events
have happened, and nothing else has been done. -/
def begun (router : Router) (id : String) (events : List Event) : Router :=
  { router with
    roster := router.roster.put id .out
    log := router.log ++ events }

/-- A resolution has gone on to its end, with one callback and with what the viewer shows. -/
structure Resolves (before : Router) (id : String) (job : Job) (outcome : Outcome)
    (callback : Callback) (viewed : List Event) (after : Router) : Prop where
  /-- A success runs the success callback, and nothing is shown. -/
  succeeds : ∀ value, outcome = .success value → callback = job.onSuccess ∧ viewed = []
  /-- A failure runs the failure callback. It is shown if the job wants that, in an editor's
  viewer or else in the log. -/
  fails : ∀ failure, outcome = .failure failure → callback = job.onFailure ∧
    viewed = if job.showsFailures = false then []
      else if before.frontEnd = .editor then [.shown job.origin failure]
      else .notice (.failure job.origin failure.message)
        :: failure.stack.map fun text => .notice (.frame text)
  /-- In the log stand, in this order, the failure that is shown, what the callback tells and
  what its commands set off, a line if the callback has failed itself, and for an editor the end
  of the busy time. -/
  events : ∃ nested noted,
    ((before.begun id (viewed ++ callback.announce job outcome)).performAll callback.program).log
      = (before.begun id (viewed ++ callback.announce job outcome)).log ++ nested ∧
    ArePast id nested ∧
    (∀ what, callback = .panic what → noted = [.notice (.panicked id what)]) ∧
    ((∀ what, callback ≠ .panic what) → noted = []) ∧
    after.log = before.log ++ (viewed ++ (callback.announce job outcome ++ nested) ++ noted
      ++ (if before.frontEnd = .editor then [.busyStop job.origin] else []))
  /-- Whoever may have laid one there, no regular file is left where the job's file was, which
  is the one that was attached last. -/
  noFile : ∀ attachment, job.attached.getLast? = some attachment →
    after.files.isFile attachment.path = false
  /-- The id is free. -/
  free : id ∉ after.ids
  /-- The last word is for the caller who waits for the job, and it is the outcome. -/
  told : ∀ waiter, job.waiter = some waiter →
    after.words = (waiter, some outcome)
        :: ((before.begun id (viewed ++ callback.announce job outcome)).performAll
          callback.program).words ∧
      after.wordFor waiter = some (some outcome)

/-- After the end of a resolution no regular file lies where the job's file was. -/
theorem isFile_filesWithout {job : Job} {attachment : Attachment} (files : Files)
    (h : job.attachment = some attachment) :
    (filesWithout job files).isFile attachment.path = false := by
  rw [filesWithout, h]
  exact Files.isFile_delete files attachment.path

/-- A failure is shown by an editor's viewer or in the log, if the job wants that. -/
theorem shownEvents_failure (frontEnd : FrontEnd) (job : Job) (failure : Failure) :
    shownEvents frontEnd job (.failure failure)
      = if job.showsFailures = false then []
        else if frontEnd = .editor then [.shown job.origin failure]
        else .notice (.failure job.origin failure.message)
          :: failure.stack.map fun text => .notice (.frame text) := by
  rw [shownEvents]
  cases job.showsFailures <;> cases frontEnd <;> rfl

/-- A line is written about a callback that fails, and about no other. -/
theorem panicEvents_eq_nil (id : String) {callback : Callback}
    (h : ∀ what, callback ≠ .panic what) : panicEvents id callback.panic? = [] := by
  cases callback with
  | panic what => exact absurd rfl (h what)
  | _ => rfl

/-- A busy time ends for an editor only. -/
theorem stop_eq (frontEnd : FrontEnd) (origin : String) :
    frontEnd.stop origin = if frontEnd = .editor then [.busyStop origin] else [] := by
  cases frontEnd <;> rfl

/-- Where the machine has nothing left to do, the command is carried out. -/
theorem perform_eq_of_ended (router : Router) (command : Command) (count : Nat)
    (h : ((router.still.give command).after count).stack = []) :
    (router.perform command).1 = ((router.still.give command).after count).router := by
  obtain ⟨other, hr, hs⟩ := router.still.comes_give command
  have hother : router.still.router.perform command = router.perform command := rfl
  rw [← hother, ← hr, ← Machine.after_of_stack_nil hs count, ← Machine.after_add, Nat.add_comm,
    Machine.after_add, Machine.after_of_stack_nil h]

/-- Every response that reaches a job is done with, whatever the job's callbacks do. -/
theorem resolves_perform_route (router : Router) (id : String) (outcome : Outcome) {job : Job}
    (held : router.roster.heldUnder id = some job) :
    (router.perform (.route ⟨id, outcome⟩)).2 = .done ∧
      ∃ callback viewed,
        router.Resolves id job outcome callback viewed
          (router.perform (.route ⟨id, outcome⟩)).1 := by
  let viewed := shownEvents router.frontEnd job outcome
  let callback := job.callback outcome
  let begun := router.begun id (viewed ++ callback.announce job outcome)
  have hbegun : (router.handOut id job outcome).note (callback.announce job outcome) = begun := by
    rw [handOut, showFailure_eq]
    exact congrArg (fun log => { router with roster := router.roster.put id .out, log })
      (List.append_assoc _ _ _)
  have hout : begun.roster.IsOut id := Roster.isOut_put router.roster id
  have hpasses := passes_performAll hout callback.program
  have hfront : (begun.performAll callback.program).frontEnd = router.frontEnd := hpasses.frontEnd
  obtain ⟨nested, hlog, hpast⟩ := hpasses.log
  rw [perform_route_eq_finish outcome held, call_eq, hbegun]
  refine ⟨rfl, callback, viewed, fun value ho => ?_, fun failure ho => ?_,
    ⟨nested, panicEvents id callback.panic?, hlog, hpast, fun what hc => by rw [hc]; rfl,
      panicEvents_eq_nil id, ?_⟩, fun attachment ha => ?_, not_mem_ids_finish _ id job _ _,
    fun waiter hw => ?_⟩
  · subst ho
    exact ⟨rfl, rfl⟩
  · subst ho
    exact ⟨rfl, shownEvents_failure router.frontEnd job failure⟩
  · rw [finish_eq, hlog, hfront, stop_eq]
    simp only [begun, Router.begun, List.append_assoc]
    rfl
  · rw [finish_eq]
    exact isFile_filesWithout _ ha
  · rw [wordFor, finish_eq, wordsOf, hw]
    exact ⟨rfl, List.lookup_cons_self⟩

/-- A job whose failure callback deletes the job's file and has others put there. -/
def fileKeeper : Job :=
  { JobOf.plain "keeper" "main" "main" with
    attached := [⟨"/tmp/code", .attached "1"⟩]
    waiter := some 7
    onFailure := .run [.deleteFile "/tmp/code",
      .enter "b" { JobOf.plain "other" "main" "main" with
        attached := [⟨"/tmp/code", .attached "2"⟩]
        onSuccess := .run [.describe { JobOf.plain "third" "main" "main" with
          attached := [⟨"/tmp/code", .attached "3"⟩] }] },
      .route ⟨"b", .success none⟩, .endAll .fail] }

/-- A job whose failure callback fails. -/
def stumbler : Job :=
  { JobOf.plain "stumbler" "main" "main" with onFailure := .panic (.message "no viewer") }

/-- An editor's router under which the first one waits. -/
def keeping : Router := ((Machine.idle .editor [.enter "a" fileKeeper]).after 2).router

/-- A router without an editor under which the other one waits. -/
def stumbling : Router := ((Machine.idle .log [.enter "a" stumbler]).after 2).router

/-- The failure that both are told of. -/
def unknownName : Failure := ⟨"no such name", ["main"]⟩

/-- The file is gone in the end, and the caller has been told. The busy time of either job has
ended once in the editor. Without an editor there is no busy time, and the failure is in the log
as well as the callback's own. -/
theorem resolves_fileKeeper :
    let third : Job := { JobOf.plain "third" "main" "main" with
      attached := [⟨"/tmp/code", .attached "3"⟩] }
    let kept := keeping.perform (.route ⟨"a", .failure unknownName⟩)
    let stumbled := stumbling.perform (.route ⟨"a", .failure unknownName⟩)
    keeping.roster.heldUnder "a" = some fileKeeper ∧
      keeping.files.isFile "/tmp/code" = true ∧
      kept.1.files.isFile "/tmp/code" = false ∧
      kept.1.ids = [] ∧
      kept.1.words = [(7, some (.failure unknownName))] ∧
      kept.1.log
        = [.shown "main" unknownName,
          .failed "keeper" unknownName,
          .nested (.truth true) ["a"],
          .nested .done ["a", "b"],
          .succeeded "other" none,
          .nested (.description third) ["a", "b"],
          .busyStop "main",
          .nested .done ["a"],
          .nested (.count 0) ["a"],
          .busyStop "main"] ∧
      stumbled.1.log
        = [.notice (.failure "main" "no such name"),
          .notice (.frame "main"),
          .failed "stumbler" unknownName,
          .notice (.panicked "a" (.message "no viewer"))] ∧
      (kept.2 = .done ∧ ∃ callback viewed,
        keeping.Resolves "a" fileKeeper (.failure unknownName) callback viewed kept.1) ∧
      (stumbled.2 = .done ∧ ∃ callback viewed,
        stumbling.Resolves "a" stumbler (.failure unknownName) callback viewed stumbled.1) := by
  intro third kept stumbled
  have hkept : kept.1
      = ((keeping.still.give (.route ⟨"a", .failure unknownName⟩)).after 15).router :=
    perform_eq_of_ended keeping _ 15 rfl
  have hstumbled : stumbled.1
      = ((stumbling.still.give (.route ⟨"a", .failure unknownName⟩)).after 1).router :=
    perform_eq_of_ended stumbling _ 1 rfl
  refine ⟨rfl, rfl, ?_, ?_, ?_, ?_, ?_, resolves_perform_route keeping "a" _ rfl,
    resolves_perform_route stumbling "a" _ rfl⟩
  · rw [hkept]
    rfl
  · rw [hkept]
    rfl
  · rw [hkept]
    rfl
  · rw [hkept]
    rfl
  · rw [hstumbled]
    rfl

end Router

end ReplLink.Routing
