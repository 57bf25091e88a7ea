import ReplLink.Proofs.Routing.Roster
import ReplLink.Routing.Router

/-!
# Settling one job

Most callbacks give no commands: they tell the editor, and may fail then. When
a response reaches a job with such callbacks, what becomes of the router can be
said in one line: `Router.settle`. A response that reaches no job leaves a line
in the log.
-/

namespace ReplLink.Routing

/-- What a callback fails with. -/
def Callback.panic? : Callback → Option Panic
  | .panic what => some what
  | _ => none

/-- The callback gives no commands to the router. -/
def Callback.isPassive : Callback → Bool
  | .run _ => false
  | _ => true

/-- Neither callback of the job gives commands. -/
def JobOf.IsPassive (job : Job) : Prop :=
  job.onSuccess.isPassive = true ∧ job.onFailure.isPassive = true

/-- Both callbacks of a passive job are passive. -/
theorem JobOf.IsPassive.callback {job : Job} (h : job.IsPassive) (outcome : Outcome) :
    (job.callback outcome).isPassive = true := by
  cases outcome with
  | success value => exact h.1
  | failure failure => exact h.2

namespace Router

@[simp] theorem note_nil (router : Router) : router.note [] = router := by
  rw [note, List.append_nil]

/-- A passive callback does no more than tell the editor. -/
theorem call_of_isPassive {callback : Callback} (h : callback.isPassive = true)
    (router : Router) (job : Job) (outcome : Outcome) :
    router.call job outcome callback
      = (router.note (callback.announce job outcome), callback.panic?) := by
  cases callback with
  | silent => rw [call_silent, Callback.announce, note_nil]; rfl
  | report => exact call_report router job outcome
  | acknowledge => exact call_acknowledge router job outcome
  | panic what => exact call_panic router job outcome what
  | run program => exact absurd h (by simp [Callback.isPassive])

end Router

/-- What the viewer shows of an outcome. -/
def shownEvents (frontEnd : FrontEnd) (job : Job) : Outcome → List Event
  | .failure failure => if job.showsFailures then frontEnd.show job.origin failure else []
  | .success _ => []

/-- The line for a callback that failed. -/
def panicEvents (id : String) : Option Panic → List Event
  | some what => [.notice (.panicked id what)]
  | none => []

/-- All that is seen of a job with passive callbacks from its response on: the
failure in the viewer, the callback that the outcome calls for, the line for its
failure, and the end of the busy time. -/
def settlementEvents (frontEnd : FrontEnd) (answer : Response) (job : Job) : List Event :=
  shownEvents frontEnd job answer.outcome
    ++ (job.callback answer.outcome).announce job answer.outcome
    ++ panicEvents answer.requestId (job.callback answer.outcome).panic?
    ++ frontEnd.stop job.origin

/-- What is shown of an outcome is a failure, or lines of the log about one. -/
theorem mem_shownEvents {frontEnd : FrontEnd} {job : Job} {outcome : Outcome} {event : Event}
    (h : event ∈ shownEvents frontEnd job outcome) :
    (∃ failure, event = .shown job.origin failure) ∨
      (∃ message, event = .notice (.failure job.origin message)) ∨
      ∃ text, event = .notice (.frame text) := by
  cases outcome with
  | success value => exact absurd h List.not_mem_nil
  | failure failure =>
    rw [shownEvents] at h
    split at h
    · cases frontEnd with
      | editor => exact .inl ⟨failure, List.mem_singleton.mp h⟩
      | log =>
        rcases List.mem_cons.mp h with rfl | h
        · exact .inr (.inl ⟨failure.message, rfl⟩)
        · obtain ⟨text, -, rfl⟩ := List.mem_map.mp h
          exact .inr (.inr ⟨text, rfl⟩)
    · exact absurd h List.not_mem_nil

/-- Before it does anything else, a callback tells of the outcome. -/
theorem mem_announce {callback : Callback} {job : Job} {outcome : Outcome} {event : Event}
    (h : event ∈ callback.announce job outcome) :
    (∃ value, event = .succeeded job.label value) ∨
      (∃ failure, event = .failed job.label failure) ∨
      event = .notice (.finished job.display) ∨
      ∃ message, event = .notice (.evaluationFailed job.display message) := by
  cases callback <;> cases outcome <;>
    simp only [Callback.announce, List.mem_singleton, List.not_mem_nil] at h <;> simp [h]

/-- A busy time starts or ends. -/
def Event.isBusy : Event → Bool
  | .busyStart _ => true
  | .busyStop _ => true
  | _ => false

/-- No busy time starts or ends with these events. -/
def AreIdle (events : List Event) : Prop := ∀ event ∈ events, event.isBusy = false

theorem areIdle_nil : AreIdle [] := fun _ he => absurd he List.not_mem_nil

/-- Events that show nothing busy may come one after the other. -/
theorem AreIdle.append {first second : List Event} (hf : AreIdle first) (hs : AreIdle second) :
    AreIdle (first ++ second) :=
  fun event he => (List.mem_append.mp he).elim (hf event) (hs event)

theorem areIdle_notice (notice : Notice) : AreIdle [.notice notice] := by
  intro event he
  rw [List.mem_singleton.mp he]
  rfl

/-- What a callback announces shows nothing busy. -/
theorem areIdle_announce (callback : Callback) (job : Job) (outcome : Outcome) :
    AreIdle (callback.announce job outcome) := by
  intro event he
  obtain ⟨_, rfl⟩ | ⟨_, rfl⟩ | rfl | ⟨_, rfl⟩ := mem_announce he <;> rfl

/-- What is shown of an outcome shows nothing busy. -/
theorem areIdle_shownEvents (frontEnd : FrontEnd) (job : Job) (outcome : Outcome) :
    AreIdle (shownEvents frontEnd job outcome) := by
  intro event he
  obtain ⟨_, rfl⟩ | ⟨_, rfl⟩ | ⟨_, rfl⟩ := mem_shownEvents he <;> rfl

/-- What is noted of a panic shows nothing busy. -/
theorem areIdle_panicEvents (id : String) (panic : Option Panic) :
    AreIdle (panicEvents id panic) := by
  cases panic with
  | none => exact areIdle_nil
  | some what => exact areIdle_notice _

/-- The words that the end of a job with this outcome adds. -/
def wordsOf (job : Job) (word : Word) : List (Nat × Word) :=
  match job.waiter with
  | some waiter => [(waiter, word)]
  | none => []

/-- The files that are left when a job has ended. -/
def filesWithout (job : Job) (files : Files) : Files :=
  match job.attachment with
  | some attachment => files.delete attachment.path
  | none => files

namespace Router

/-- Showing a failure notes what the front end shows of it. -/
theorem showFailure_eq (router : Router) (job : Job) (outcome : Outcome) :
    router.showFailure job outcome
      = router.note (shownEvents router.frontEnd job outcome) := by
  cases outcome with
  | success value => exact (note_nil router).symm
  | failure failure =>
    rw [showFailure, shownEvents]
    split
    · rfl
    · exact (note_nil router).symm

/-- A panic is noted if there was one. -/
theorem notePanic_eq (router : Router) (id : String) (panic : Option Panic) :
    router.notePanic id panic = router.note (panicEvents id panic) := by
  cases panic with
  | none => exact (note_nil router).symm
  | some what => rfl

/-- Whoever waits for a job is told the word, and nothing else changes. -/
theorem tell_eq (router : Router) (job : Job) (word : Word) :
    router.tell job word = { router with words := wordsOf job word ++ router.words } := by
  unfold tell wordsOf
  match job.waiter with
  | some waiter => rfl
  | none => rfl

/-- Deleting the file of a job changes the files alone. -/
theorem deleteFile_eq (router : Router) (job : Job) :
    router.deleteFile job = { router with files := filesWithout job router.files } := by
  unfold deleteFile filesWithout
  match job.attachment with
  | some attachment => rfl
  | none => rfl

/-- Releasing a job deletes its file and stops its busy time. -/
theorem release_eq (router : Router) (job : Job) :
    router.release job
      = { router with
          files := filesWithout job router.files
          log := router.log ++ router.frontEnd.stop job.origin } := by
  rw [release, deleteFile_eq]
  rfl

/-- The end of a resolution frees the id, stops the busy indicator and tells
who waits. -/
theorem finish_eq (router : Router) (id : String) (job : Job) (outcome : Outcome)
    (panic : Option Panic) :
    router.finish id job outcome panic
      = { frontEnd := router.frontEnd
          roster := router.roster.erase id
          files := filesWithout job router.files
          words := wordsOf job (some outcome) ++ router.words
          log := router.log ++ panicEvents id panic ++ router.frontEnd.stop job.origin } := by
  rw [finish, notePanic_eq, release_eq, tell_eq]
  rfl

/-- The router behind a response to a job with passive callbacks. -/
def settle (router : Router) (answer : Response) (job : Job) : Router where
  frontEnd := router.frontEnd
  roster := router.roster.erase answer.requestId
  files := filesWithout job router.files
  words := wordsOf job (some answer.outcome) ++ router.words
  log := router.log ++ settlementEvents router.frontEnd answer job

/-- A response settles the job that waits under its id. -/
theorem perform_route_of_held {router : Router} {answer : Response} {job : Job}
    (h : router.roster.heldUnder answer.requestId = some job) (hp : job.IsPassive) :
    router.perform (.route answer) = (router.settle answer job, .done) := by
  rw [perform_route, Roster.checkOut_eq, h]
  simp only [Option.map_some]
  rw [call_of_isPassive (hp.callback answer.outcome), showFailure_eq, finish_eq, settle]
  simp only [note, Keyed.erase_put, settlementEvents, List.append_assoc]

/-- A response to nothing that waits is only noted. -/
theorem perform_route_of_none {router : Router} {answer : Response}
    (h : router.roster.heldUnder answer.requestId = none) :
    router.perform (.route answer)
      = (router.note [.notice (.unknownResponse answer.requestId)],
        .refused (.idUnknown answer.requestId)) := by
  rw [perform_route, Roster.checkOut_eq, h]
  rfl

end Router

end ReplLink.Routing
