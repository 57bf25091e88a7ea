import Mathlib.Data.List.Basic
import ReplLink.Proofs.Routing.Settlement

/-!
# The order of responses

Responses to different requests may arrive in any order. Routing one of them takes its own
job from the roster, deletes the job's file and adds to the log; it leaves the other jobs
alone, also where several of them share a file. So what becomes of each response, and what
is seen meanwhile, depends only on what was registered before all of them, and the order
can be told from nothing but the order of the log.
-/

namespace ReplLink

namespace Keyed

variable {α : Type}

/-- What is taken away under two names may be taken away in either order. -/
theorem erase_comm (map : Keyed α) (first second : String) :
    (map.erase first).erase second = (map.erase second).erase first := by
  simp only [erase, List.filter_filter, Bool.and_comm]

end Keyed

/-- Deleting one file leaves the others where they are. -/
theorem Files.isFile_delete_of_ne (files : Files) {path other : String} (h : other ≠ path) :
    (files.delete path).isFile other = files.isFile other := by
  unfold delete
  split
  · rw [isFile, Keyed.get?_erase_of_ne files h, isFile]
  · rfl

/-- Two files may be deleted in either order, also if they are the same. -/
theorem Files.delete_comm (files : Files) (first second : String) :
    (files.delete first).delete second = (files.delete second).delete first := by
  by_cases he : second = first
  · rw [he]
  · have hsecond := files.isFile_delete_of_ne he
    have hfirst := files.isFile_delete_of_ne (Ne.symm he)
    rw [delete, hsecond, delete.eq_def (files.delete second), hfirst, delete, delete]
    split
    · split
      · exact files.erase_comm first second
      · rfl
    · rfl

namespace Routing

theorem filesWithout_comm (first second : Job) (files : Files) :
    filesWithout second (filesWithout first files)
      = filesWithout first (filesWithout second files) := by
  unfold filesWithout
  cases first.attachment with
  | none => rfl
  | some one =>
    cases second.attachment with
    | none => rfl
    | some other => exact files.delete_comm one.path other.path

/-- A response that was routed. -/
structure Routed where
  /-- The response. -/
  answer : Response
  /-- The router's reply. -/
  reply : Reply
  /-- What is seen meanwhile. -/
  events : List Event

/-- What is seen while responses with this id are routed. -/
def seenUnder (id : String) (routed : List Routed) : List Event :=
  (routed.filter (·.answer.requestId = id)).flatMap (·.events)

namespace Router

/-- Routes responses, one after the other. -/
def routeAll (router : Router) : List Response → Router × List Routed
  | [] => (router, [])
  | answer :: rest =>
    let (next, reply) := router.perform (.route answer)
    let (last, others) := next.routeAll rest
    (last, ⟨answer, reply, next.log.drop router.log.length⟩ :: others)

/-- What becomes of a response where these jobs are registered. -/
def routed (router : Router) (answer : Response) : Routed :=
  match router.roster.heldUnder answer.requestId with
  | some job => ⟨answer, .done, settlementEvents router.frontEnd answer job⟩
  | none =>
    ⟨answer, .refused (.idUnknown answer.requestId),
      [.notice (.unknownResponse answer.requestId)]⟩

/-- The roster without the job that a response reaches. -/
def rosterBehind (router : Router) (roster : Roster) (answer : Response) : Roster :=
  match router.roster.heldUnder answer.requestId with
  | some _ => roster.erase answer.requestId
  | none => roster

/-- The files without that of the job that a response reaches. -/
def filesBehind (router : Router) (files : Files) (answer : Response) : Files :=
  match router.roster.heldUnder answer.requestId with
  | some job => filesWithout job files
  | none => files

variable {router : Router}

/-- Routing one response does to roster, files and log what it would do after others. -/
theorem perform_route_eq {answer : Response}
    (hp : ∀ id job, router.roster.heldUnder id = some job → job.IsPassive) :
    ∃ words, router.perform (.route answer)
      = ({ frontEnd := router.frontEnd
           roster := router.rosterBehind router.roster answer
           files := router.filesBehind router.files answer
           words := words
           log := router.log ++ (router.routed answer).events },
        (router.routed answer).reply) := by
  unfold rosterBehind filesBehind routed
  cases hh : router.roster.heldUnder answer.requestId with
  | none => exact ⟨_, perform_route_of_none hh⟩
  | some job => exact ⟨_, perform_route_of_held hh (hp _ _ hh)⟩

/-- Under any other id the roster behind a response holds what it has held. -/
theorem heldUnder_rosterBehind (answer : Response) {id : String} (h : id ≠ answer.requestId) :
    (router.rosterBehind router.roster answer).heldUnder id = router.roster.heldUnder id := by
  unfold rosterBehind
  split
  · exact Roster.heldUnder_erase_of_ne router.roster h
  · rfl

/-- What waits behind a response has waited before. -/
theorem heldUnder_of_rosterBehind {answer : Response} {id : String} {job : Job}
    (h : (router.rosterBehind router.roster answer).heldUnder id = some job) :
    router.roster.heldUnder id = some job := by
  unfold rosterBehind at h
  split at h
  · exact (Roster.heldUnder_of_erase h).2
  · exact h

/-- What a row of responses comes to can be told from the roster before all of them. -/
structure RoutesAll (before : Router) (answers : List Response) (after : Router)
    (routed : List Routed) : Prop where
  /-- Each response gets its reply and its events. -/
  each : routed = answers.map before.routed
  /-- The jobs that are reached leave the roster. -/
  roster : after.roster = answers.foldl before.rosterBehind before.roster
  /-- Their files are deleted. -/
  files : after.files = answers.foldl before.filesBehind before.files
  /-- All that is seen belongs to the responses, one after the other. -/
  log : after.log = before.log ++ routed.flatMap (·.events)

/-- Responses with different ids do not meddle with each other. -/
theorem routesAll {answers : List Response}
    (hp : ∀ id job, router.roster.heldUnder id = some job → job.IsPassive)
    (hn : (answers.map (·.requestId)).Nodup) :
    router.RoutesAll answers (router.routeAll answers).1 (router.routeAll answers).2 := by
  induction answers generalizing router with
  | nil => exact ⟨rfl, rfl, rfl, (List.append_nil _).symm⟩
  | cons answer rest ih =>
    obtain ⟨hnew, hrest⟩ := List.nodup_cons.mp hn
    obtain ⟨words, hfirst⟩ := @perform_route_eq router answer hp
    let next : Router :=
      { frontEnd := router.frontEnd
        roster := router.rosterBehind router.roster answer
        files := router.filesBehind router.files answer
        words := words
        log := router.log ++ (router.routed answer).events }
    -- The other responses find the jobs that they would have found before.
    have hsame : ∀ other ∈ rest,
        next.roster.heldUnder other.requestId = router.roster.heldUnder other.requestId :=
      fun other ho => heldUnder_rosterBehind answer fun he =>
        hnew (List.mem_map.mpr ⟨other, ho, he⟩)
    have hnext : next.RoutesAll rest (next.routeAll rest).1 (next.routeAll rest).2 :=
      ih (fun id job hh => hp id job (heldUnder_of_rosterBehind hh)) hrest
    have hevents : next.log.drop router.log.length = (router.routed answer).events :=
      List.drop_left
    have hanswer : (router.routed answer).answer = answer := by
      unfold routed
      split <;> rfl
    have hrouted : (⟨answer, (router.routed answer).reply, (router.routed answer).events⟩ : Routed)
        = router.routed answer :=
      congrArg (fun first => (⟨first, (router.routed answer).reply,
        (router.routed answer).events⟩ : Routed)) hanswer.symm
    have hall : router.routeAll (answer :: rest)
        = ((next.routeAll rest).1, router.routed answer :: (next.routeAll rest).2) := by
      rw [routeAll, hfirst]
      dsimp only
      rw [hevents, hrouted]
    rw [hall]
    dsimp only
    constructor
    · rw [hnext.each, List.map_cons]
      congr 1
      refine List.map_congr_left fun other ho => ?_
      rw [routed, routed, hsame other ho]
    · rw [hnext.roster, List.foldl_cons]
      refine List.foldl_ext _ _ _ fun roster other ho => ?_
      rw [rosterBehind, rosterBehind, hsame other ho]
    · rw [hnext.files, List.foldl_cons]
      refine List.foldl_ext _ _ _ fun files other ho => ?_
      rw [filesBehind, filesBehind, hsame other ho]
    · rw [hnext.log, List.flatMap_cons, List.append_assoc]

theorem rosterBehind_comm (roster : Roster) (first second : Response) :
    router.rosterBehind (router.rosterBehind roster first) second
      = router.rosterBehind (router.rosterBehind roster second) first := by
  unfold rosterBehind
  cases router.roster.heldUnder first.requestId with
  | none => rfl
  | some _ =>
    cases router.roster.heldUnder second.requestId with
    | none => rfl
    | some _ => exact roster.erase_comm first.requestId second.requestId

theorem filesBehind_comm (files : Files) (first second : Response) :
    router.filesBehind (router.filesBehind files first) second
      = router.filesBehind (router.filesBehind files second) first := by
  unfold filesBehind
  cases router.roster.heldUnder first.requestId with
  | none => rfl
  | some one =>
    cases router.roster.heldUnder second.requestId with
    | none => rfl
    | some other => exact filesWithout_comm one other files

/-- Among responses with different ids one at most has a given id. -/
theorem filter_requestId_perm {answers others : List Response}
    (hn : (answers.map (·.requestId)).Nodup) (ho : others.Perm answers) (id : String) :
    others.filter (·.requestId = id) = answers.filter (·.requestId = id) := by
  have hsame : (others.filter (·.requestId = id)).Perm (answers.filter (·.requestId = id)) :=
    ho.filter _
  have hapart : ((answers.filter (·.requestId = id)).map (·.requestId)).Nodup :=
    hn.sublist (List.filter_sublist.map _)
  have hid : ∀ answer ∈ answers.filter (·.requestId = id), answer.requestId = id :=
    fun answer hm => of_decide_eq_true (List.mem_filter.mp hm).2
  match hf : answers.filter (·.requestId = id) with
  | [] =>
    rw [hf] at hsame
    exact hsame.eq_nil.trans hf.symm
  | [only] =>
    rw [hf] at hsame
    exact (List.perm_singleton.mp hsame).trans hf.symm
  | first :: second :: rest =>
    rw [hf] at hapart hid
    have hfirst := hid first List.mem_cons_self
    have hsecond := hid second (List.mem_cons_of_mem _ List.mem_cons_self)
    have hne := (List.nodup_cons.mp hapart).1
    exact absurd (List.mem_map.mpr ⟨second, List.mem_cons_self, hsecond.trans hfirst.symm⟩) hne

theorem seenUnder_map_routed (answers : List Response) (id : String) :
    seenUnder id (answers.map router.routed)
      = (answers.filter (·.requestId = id)).flatMap fun answer =>
          (router.routed answer).events := by
  have hanswer (answer : Response) : (router.routed answer).answer = answer := by
    unfold routed
    split <;> rfl
  rw [seenUnder, List.filter_map, List.flatMap_map]
  congr 2
  funext answer
  rw [Function.comp_apply, hanswer]

/-- Responses with different ids, known or not, may come in any order, as long as no callback
of a registered job gives commands. The same ids are registered afterwards, the same files
are left, each response gets the same reply, and under each id the same is seen: the failure
in the viewer, the callback, the line for its failure and the end of the busy time of the
job that was registered under it, or the line for a response that reaches none. There is
nothing else that is seen. -/
theorem routeAll_perm {answers others : List Response}
    (hp : ∀ id job, router.roster.heldUnder id = some job → job.IsPassive)
    (hn : (answers.map (·.requestId)).Nodup) (ho : others.Perm answers) :
    (router.routeAll others).1.ids = (router.routeAll answers).1.ids ∧
      (router.routeAll others).1.files = (router.routeAll answers).1.files ∧
      (router.routeAll others).2.Perm (router.routeAll answers).2 ∧
      (∀ id, seenUnder id (router.routeAll others).2
        = seenUnder id (router.routeAll answers).2) ∧
      ∀ order, order.Perm answers →
        router.RoutesAll order (router.routeAll order).1 (router.routeAll order).2 := by
  have hall (order : List Response) (h : order.Perm answers) :
      router.RoutesAll order (router.routeAll order).1 (router.routeAll order).2 :=
    routesAll hp ((h.map _).nodup_iff.mpr hn)
  have hfirst := hall answers (List.Perm.refl answers)
  have hsecond := hall others ho
  have hroster : (router.routeAll others).1.roster = (router.routeAll answers).1.roster := by
    rw [hsecond.roster, hfirst.roster]
    exact ho.foldl_eq' (fun one _ other _ roster => rosterBehind_comm roster one other) _
  refine ⟨congrArg Keyed.keys hroster, ?_, ?_, fun id => ?_, hall⟩
  · rw [hsecond.files, hfirst.files]
    exact ho.foldl_eq' (fun one _ other _ files => filesBehind_comm files one other) _
  · rw [hsecond.each, hfirst.each]
    exact ho.map router.routed
  · rw [hsecond.each, hfirst.each, seenUnder_map_routed, seenUnder_map_routed,
      filter_requestId_perm hn ho]

/-- Two jobs share a file, and the callback of one of them fails; the callback of a third one
is running. -/
def sharedFile : Router :=
  let file : Attachment := ⟨"/home/notes", .attached "f()"⟩
  let first : Job := { JobOf.plain "a" "buffer" "repl" with
    onFailure := .panic .nameless, attached := [file] }
  let second : Job := { JobOf.plain "b" "notes" "repl" with
    onSuccess := .report, attached := [file] }
  { idle .editor with
    roster := ⟨[("000000a0", .held first), ("000000a1", .held second), ("000000a2", .out)]⟩
    files := ⟨[("/home/notes", .attached "f()"), ("/home/other", .attached "g()")]⟩ }

/-- Answers to the three jobs and one to none. -/
def mixedAnswers : List Response :=
  [⟨"000000a0", .failure ⟨"no", ["f"]⟩⟩, ⟨"x", .success none⟩, ⟨"000000a2", .success none⟩,
    ⟨"000000a1", .success (some (.int 1))⟩]

/-- The answers may come the other way round. -/
theorem routeAll_perm_mixedAnswers :
    (∀ id job, sharedFile.roster.heldUnder id = some job → job.IsPassive) ∧
      (mixedAnswers.map (·.requestId)).Nodup ∧ mixedAnswers.reverse.Perm mixedAnswers ∧
      (sharedFile.routeAll mixedAnswers.reverse).1.ids = ["000000a2"] ∧
      (sharedFile.routeAll mixedAnswers.reverse).1.ids = (sharedFile.routeAll mixedAnswers).1.ids ∧
      (sharedFile.routeAll mixedAnswers.reverse).1.files
        = (sharedFile.routeAll mixedAnswers).1.files ∧
      ∀ id, seenUnder id (sharedFile.routeAll mixedAnswers.reverse).2
        = seenUnder id (sharedFile.routeAll mixedAnswers).2 := by
  have hp : ∀ id job, sharedFile.roster.heldUnder id = some job → job.IsPassive := by
    intro id job hh
    have hboth : ∀ pair ∈ sharedFile.roster.waiting, JobOf.IsPassive pair.2 :=
      List.forall_mem_cons.mpr ⟨⟨rfl, rfl⟩,
        List.forall_mem_cons.mpr ⟨⟨rfl, rfl⟩, List.forall_mem_nil _⟩⟩
    exact hboth (id, job) ((Roster.mem_waiting_iff (by decide)).mpr hh)
  have hn : (mixedAnswers.map (·.requestId)).Nodup := by decide
  have ho : mixedAnswers.reverse.Perm mixedAnswers := List.reverse_perm mixedAnswers
  have hleft : (sharedFile.routeAll mixedAnswers.reverse).1.ids = ["000000a2"] := by
    decide +kernel
  obtain ⟨hids, hfiles, -, hseen, -⟩ := routeAll_perm hp hn ho
  exact ⟨hp, hn, ho, hleft, hids, hfiles, hseen⟩

end Router

end Routing

end ReplLink
