import ReplLink.Proofs.Routing.Ledger

/-!
# What a router is charged with

A request that is outstanding is a charge on the router: a busy time of its
context has begun and not ended, and if its code was spilled a file lies on disk.
`Accounts` says that the log and the files tell of just these charges. There is
one lemma for a charge that comes and one for a charge that goes, and every way
for a request to end is an instance of the second: a response, a callback that
fails, a connection that goes away, a line that could not be written.

Where the files of spilled code lie is left open: `pathOf` gives a path for each
id, no two ids having the same.
-/

namespace ReplLink

open ReplLink.Routing

namespace Files

/-- Where nothing lies, a file is put as it is. -/
theorem lay_of_get?_none {files : Files} {attachment : Attachment}
    (h : files.get? attachment.path = none) :
    files.lay attachment = files.put attachment.path attachment.entry := by
  rw [lay, h]

/-- A file that is laid where none was is the only one that is new. -/
theorem get?_lay_of_none {files : Files} {attachment : Attachment}
    (h : files.get? attachment.path = none) (path : String) :
    (files.lay attachment).get? path
      = if path = attachment.path then some attachment.entry else files.get? path := by
  rw [lay_of_get?_none h]
  split
  · next he => rw [he, Keyed.get?_put_self]
  · next he => exact Keyed.get?_put_of_ne _ _ he

/-- A file that is put somewhere changes nothing elsewhere. -/
theorem get?_lay_of_ne (files : Files) {attachment : Attachment} {path : String}
    (h : path ≠ attachment.path) : (files.lay attachment).get? path = files.get? path := by
  unfold lay
  split
  · exact Keyed.get?_put_of_ne _ _ h
  · split
    · exact Keyed.get?_put_of_ne _ _ h
    · rfl

/-- What lies where a file was put is that file, or what has been there. -/
theorem get?_lay_self (files : Files) (attachment : Attachment) :
    (files.lay attachment).get? attachment.path = some attachment.entry ∨
      (files.lay attachment).get? attachment.path = files.get? attachment.path := by
  unfold lay
  split
  · exact .inl (Keyed.get?_put_self _ _ _)
  · split
    · exact .inl (Keyed.get?_put_self _ _ _)
    · exact .inr rfl

/-- A deletion changes nothing elsewhere. -/
theorem get?_delete_of_ne (files : Files) {path other : String} (h : other ≠ path) :
    (files.delete path).get? other = files.get? other := by
  unfold delete
  split
  · exact Keyed.get?_erase_of_ne _ h
  · rfl

/-- A regular file is gone when it was deleted. -/
theorem get?_delete_self {files : Files} {path : String} {entry : FileEntry}
    (h : files.get? path = some entry) (hfile : entry.isFile = true) :
    (files.delete path).get? path = none := by
  have hisFile : files.isFile path = true := by rw [isFile, h, Option.any_some, hfile]
  rw [delete, if_pos hisFile, Keyed.get?_erase_self]

/-- What lies where something was deleted has been there. -/
theorem get?_of_get?_delete {files : Files} {path other : String} {entry : FileEntry}
    (h : (files.delete path).get? other = some entry) : files.get? other = some entry := by
  unfold delete at h
  split at h
  · by_cases he : other = path
    · rw [he, Keyed.get?_erase_self] at h
      exact absurd h (by simp)
    · rwa [Keyed.get?_erase_of_ne _ he] at h
  · exact h

end Files

namespace Routing

/-- The busy indicator of a context starts. -/
def isStart (origin : String) : Event → Bool
  | .busyStart other => other == origin
  | _ => false

theorem AreIdle.countP_isStart {events : List Event} (h : AreIdle events) (origin : String) :
    events.countP (isStart origin) = 0 := by
  refine List.countP_eq_zero.mpr fun event he => ?_
  have hidle := h event he
  cases event with
  | busyStart other => exact absurd hidle (by simp [Event.isBusy])
  | _ => simp [isStart]

theorem countP_isStop_start (frontEnd : FrontEnd) (origin other : String) :
    (frontEnd.start other).countP (isStop origin) = 0 := by
  cases frontEnd <;> rfl

theorem countP_isStart_stop (frontEnd : FrontEnd) (origin other : String) :
    (frontEnd.stop other).countP (isStart origin) = 0 := by
  cases frontEnd <;> rfl

/-- The end of a busy time is as often told as its start. -/
theorem countP_isStop_stop (frontEnd : FrontEnd) (origin other : String) :
    (frontEnd.stop other).countP (isStop origin)
      = (frontEnd.start other).countP (isStart origin) := by
  cases frontEnd <;> rfl

/-- Up to any moment, no more busy times of a context have ended than begun. -/
def IsSteady (log : List Event) : Prop :=
  ∀ seen, seen <+: log → ∀ origin, seen.countP (isStop origin) ≤ seen.countP (isStart origin)

theorem isSteady_nil : IsSteady [] := by
  intro seen h origin
  rw [List.prefix_nil.mp h]
  exact Nat.le_refl _

/-- One more event is fine if the balance is not negative after it. -/
theorem IsSteady.concat {log : List Event} (h : IsSteady log) {event : Event}
    (hle : ∀ origin, (log ++ [event]).countP (isStop origin)
      ≤ (log ++ [event]).countP (isStart origin)) : IsSteady (log ++ [event]) := by
  intro seen hs origin
  rcases List.prefix_concat_iff.mp hs with rfl | hs
  · exact hle origin
  · exact h seen hs origin

/-- An event that ends no busy time is always fine. -/
theorem IsSteady.concat_of_isQuiet {log : List Event} (h : IsSteady log) {event : Event}
    (hq : AreQuiet [event]) : IsSteady (log ++ [event]) := by
  refine h.concat fun origin => ?_
  rw [List.countP_append, List.countP_append, hq origin]
  exact Nat.le_trans (h log (List.prefix_refl log) origin) (Nat.le_add_right _ _)

/-- Events that show nothing busy leave a log steady. -/
theorem IsSteady.append_of_areIdle {log events : List Event} (h : IsSteady log)
    (hi : AreIdle events) : IsSteady (log ++ events) := by
  induction events generalizing log with
  | nil => rwa [List.append_nil]
  | cons event rest ih =>
    rw [← List.singleton_append, ← List.append_assoc]
    have hone : AreIdle [event] := fun other ho => hi other (by
      rw [List.mem_singleton.mp ho]
      exact List.mem_cons_self)
    exact ih (h.concat_of_isQuiet hone.areQuiet)
      fun other ho => hi other (List.mem_cons_of_mem _ ho)

/-- A job whose own file is none of the files of spilled code. -/
def JobOf.KeepsOff (pathOf : String → String) (job : Job) : Prop :=
  ∀ attachment, job.attachment = some attachment → ∀ id, attachment.path ≠ pathOf id

/-- A job with no file keeps off every path. -/
theorem JobOf.keepsOff_of_attached_nil {pathOf : String → String} {job : Job}
    (h : job.attached = []) : job.KeepsOff pathOf := by
  intro file hf
  rw [attachment, h] at hf
  exact absurd hf (by simp)

/-- An outstanding request, as its sender has given it. -/
structure Charge where
  /-- The id that it was sent under. -/
  id : String
  /-- Its code. -/
  code : String
  /-- What the sender wants to be done with it. -/
  job : Job
  /-- Its code was spilled to a file. -/
  spilled : Bool

namespace Charge

/-- The job that is registered for a request: the sender's, with the file of the
spilled code. -/
def registered (pathOf : String → String) (charge : Charge) : Job :=
  if charge.spilled then
    { charge.job with attached := [⟨pathOf charge.id, .spilled charge.code⟩] }
  else charge.job

/-- What the roster has of a request. -/
def listed (pathOf : String → String) (charge : Charge) : String × Job :=
  (charge.id, charge.registered pathOf)

/-- How many busy times of a context a front end is told of for these requests. -/
def running (frontEnd : FrontEnd) (charges : List Charge) (origin : String) : Nat :=
  match frontEnd with
  | .editor => charges.countP (·.job.origin == origin)
  | .log => 0

/-- The file of the spilled code of a request. -/
def IsFile (pathOf : String → String) (charge : Charge) (path code : String) : Prop :=
  charge.spilled = true ∧ charge.code = code ∧ path = pathOf charge.id

variable (pathOf : String → String)

@[simp] theorem origin_registered (charge : Charge) :
    (charge.registered pathOf).origin = charge.job.origin := by
  unfold registered
  split <;> rfl

/-- The registered job has the sender's callbacks and waiter. -/
theorem callbacks_registered (charge : Charge) :
    (charge.registered pathOf).onSuccess = charge.job.onSuccess ∧
      (charge.registered pathOf).onFailure = charge.job.onFailure ∧
      (charge.registered pathOf).waiter = charge.job.waiter := by
  unfold registered
  split
  · exact ⟨rfl, rfl, rfl⟩
  · exact ⟨rfl, rfl, rfl⟩

/-- A passive job is registered as one. -/
theorem isPassive_registered {charge : Charge} (h : charge.job.IsPassive) :
    (charge.registered pathOf).IsPassive := by
  obtain ⟨hs, hf, -⟩ := charge.callbacks_registered pathOf
  rw [JobOf.IsPassive, hs, hf]
  exact h

@[simp] theorem running_nil (frontEnd : FrontEnd) (origin : String) :
    running frontEnd [] origin = 0 := by
  cases frontEnd <;> rfl

/-- One more request is one more start of a busy time. -/
theorem running_cons (frontEnd : FrontEnd) (charge : Charge) (charges : List Charge)
    (origin : String) :
    running frontEnd (charge :: charges) origin
      = running frontEnd charges origin
        + (frontEnd.start charge.job.origin).countP (isStart origin) := by
  cases frontEnd with
  | editor =>
    rw [running, running, List.countP_cons, FrontEnd.start, List.countP_singleton]
    rfl
  | log => rfl

/-- How many requests run for a context does not depend on their order. -/
theorem running_of_perm {first second : List Charge} (h : first.Perm second)
    (frontEnd : FrontEnd) (origin : String) :
    running frontEnd first origin = running frontEnd second origin := by
  cases frontEnd with
  | editor => exact h.countP_eq _
  | log => rfl

/-- The end of a spilled request deletes the file of its code. -/
theorem filesWithout_of_spilled {charge : Charge} (h : charge.spilled = true) (files : Files) :
    filesWithout (charge.registered pathOf) files = files.delete (pathOf charge.id) := by
  rw [registered, if_pos h]
  rfl

/-- The end of any other request leaves the files of spilled code alone. -/
theorem get?_filesWithout_of_not_spilled {charge : Charge} (h : charge.spilled = false)
    (hk : charge.job.KeepsOff pathOf) (files : Files) (id : String) :
    (filesWithout (charge.registered pathOf) files).get? (pathOf id) = files.get? (pathOf id) := by
  rw [registered, if_neg (by simp [h]), filesWithout]
  split
  · next attachment ha => exact Files.get?_delete_of_ne files (Ne.symm (hk attachment ha id))
  · rfl

/-- What lies on disk when a request has ended has been there. -/
theorem get?_of_get?_filesWithout {job : Job} {files : Files} {path : String}
    {entry : FileEntry} (h : (filesWithout job files).get? path = some entry) :
    files.get? path = some entry := by
  unfold filesWithout at h
  split at h
  · exact Files.get?_of_get?_delete h
  · exact h

/-- Striking out an id that no request has changes nothing. -/
theorem filter_of_not_mem {charges : List Charge} {id : String}
    (h : id ∉ charges.map (·.id)) : charges.filter (·.id ≠ id) = charges := by
  refine List.filter_eq_self.mpr fun charge hc => ?_
  have hne : charge.id ≠ id := fun he => h (he ▸ List.mem_map_of_mem hc)
  simpa using hne

/-- Without the request that came last, the requests are those from before. -/
theorem filter_cons_self {charge : Charge} {charges : List Charge}
    (h : charge.id ∉ charges.map (·.id)) :
    (charge :: charges).filter (·.id ≠ charge.id) = charges := by
  rw [List.filter_cons_of_neg (by simp), filter_of_not_mem h]

/-- One request is set apart from the others. -/
theorem perm_cons_others {charges : List Charge} (hn : (charges.map (·.id)).Nodup)
    {charge : Charge} (hc : charge ∈ charges) :
    charges.Perm (charge :: charges.filter (·.id ≠ charge.id)) := by
  obtain ⟨front, back, rfl⟩ := List.append_of_mem hc
  rw [List.map_append, List.map_cons, List.nodup_append, List.nodup_cons] at hn
  obtain ⟨-, ⟨hback, -⟩, hfront⟩ := hn
  have hf : charge.id ∉ front.map (·.id) := fun hm => hfront _ hm _ List.mem_cons_self rfl
  rw [List.filter_append, filter_of_not_mem hf, filter_cons_self hback]
  exact List.perm_middle

end Charge

namespace Router

/-- The log and the files of a router tell of these outstanding requests, and of
no others. -/
structure Accounts (pathOf : String → String) (frontEnd : FrontEnd) (router : Router)
    (charges : List Charge) : Prop where
  /-- This front end is told of busy times. -/
  front : router.frontEnd = frontEnd
  /-- Each request has an id of its own. -/
  apart : (charges.map (·.id)).Nodup
  /-- No callback gives commands. -/
  passive : ∀ charge ∈ charges, charge.job.IsPassive
  /-- No sender has attached a file of spilled code. -/
  away : ∀ charge ∈ charges, charge.job.KeepsOff pathOf
  /-- Of each context, as many busy times have begun and not ended as requests
  are outstanding. -/
  busy : ∀ origin, router.log.countP (isStart origin)
    = router.log.countP (isStop origin) + Charge.running frontEnd charges origin
  /-- It has never been otherwise. -/
  steady : IsSteady router.log
  /-- Spilled code lies on disk for the requests whose code was spilled. -/
  spills : ∀ path code, router.files.get? path = some (.spilled code) ↔
    ∃ charge ∈ charges, charge.IsFile pathOf path code
  /-- Nothing else lies where spilled code belongs. -/
  clear : ∀ id entry, router.files.get? (pathOf id) = some entry → entry.isSpilled = true

variable {pathOf : String → String} {frontEnd : FrontEnd} {router next : Router}
  {charges : List Charge}

/-- An idle router has no request to account for. -/
theorem accounts_idle (pathOf : String → String) (frontEnd : FrontEnd) :
    (idle frontEnd).Accounts pathOf frontEnd [] where
  front := rfl
  apart := List.nodup_nil
  passive := fun charge hc => absurd hc List.not_mem_nil
  away := fun charge hc => absurd hc List.not_mem_nil
  busy := fun origin => by
    rw [Charge.running_nil]
    rfl
  steady := isSteady_nil
  spills := fun path code => by
    constructor
    · intro h
      exact nomatch h
    · rintro ⟨charge, hc, -⟩
      exact absurd hc List.not_mem_nil
  clear := fun id entry h => nomatch h

/-- Idle events make no difference. -/
theorem Accounts.idle_log (h : router.Accounts pathOf frontEnd charges) {events : List Event}
    (hi : AreIdle events) (hfront : next.frontEnd = router.frontEnd)
    (hfiles : next.files = router.files) (hlog : next.log = router.log ++ events) :
    next.Accounts pathOf frontEnd charges where
  front := hfront.trans h.front
  apart := h.apart
  passive := h.passive
  away := h.away
  busy := by
    intro origin
    rw [hlog, List.countP_append, List.countP_append, hi.countP_isStart, hi.areQuiet origin,
      Nat.add_zero, Nat.add_zero]
    exact h.busy origin
  steady := hlog ▸ h.steady.append_of_areIdle hi
  spills := hfiles ▸ h.spills
  clear := hfiles ▸ h.clear

/-- Nothing lies where the code of a new request is to be spilled. -/
theorem Accounts.get?_of_fresh (h : router.Accounts pathOf frontEnd charges)
    (hinj : Function.Injective pathOf) {id : String}
    (hid : id ∉ charges.map (·.id)) : router.files.get? (pathOf id) = none := by
  cases hg : router.files.get? (pathOf id) with
  | none => rfl
  | some entry =>
    cases entry with
    | spilled code =>
      obtain ⟨charge, hc, -, -, hpath⟩ := (h.spills _ _).mp hg
      exact absurd (List.mem_map.mpr ⟨charge, hc, (hinj hpath).symm⟩) hid
    | attached content => exact absurd (h.clear id _ hg) (by simp [FileEntry.isSpilled])
    | directory => exact absurd (h.clear id _ hg) (by simp [FileEntry.isSpilled])

/-- The files with the one for the spilled code of a new request. -/
def filesFor (pathOf : String → String) (charge : Charge) (files : Files) : Files :=
  if charge.spilled then files.lay ⟨pathOf charge.id, .spilled charge.code⟩ else files

/-- The router with one more request. -/
def take (pathOf : String → String) (router : Router) (charge : Charge) : Router :=
  { router with
    roster := router.roster.put charge.id (.held (charge.registered pathOf))
    files := filesFor pathOf charge router.files
    log := router.log ++ router.frontEnd.start charge.job.origin }

/-- Spilled code lies where it did, and where that of the new request belongs. -/
theorem Accounts.get?_filesFor (h : router.Accounts pathOf frontEnd charges)
    (hinj : Function.Injective pathOf) {charge : Charge}
    (hid : charge.id ∉ charges.map (·.id)) (path : String) :
    (filesFor pathOf charge router.files).get? path
      = if charge.spilled = true ∧ path = pathOf charge.id then some (.spilled charge.code)
        else router.files.get? path := by
  unfold filesFor
  cases hs : charge.spilled with
  | false => simp
  | true =>
    rw [if_pos rfl, Files.get?_lay_of_none (h.get?_of_fresh hinj hid)]
    simp only [true_and]

/-- A new request is charged. -/
theorem Accounts.take (h : router.Accounts pathOf frontEnd charges)
    (hinj : Function.Injective pathOf) {charge : Charge}
    (hid : charge.id ∉ charges.map (·.id)) (hp : charge.job.IsPassive)
    (hk : charge.job.KeepsOff pathOf) :
    (router.take pathOf charge).Accounts pathOf frontEnd (charge :: charges) where
  front := h.front
  apart := List.nodup_cons.mpr ⟨hid, h.apart⟩
  passive := List.forall_mem_cons.mpr ⟨hp, h.passive⟩
  away := List.forall_mem_cons.mpr ⟨hk, h.away⟩
  busy := by
    intro origin
    have hb := h.busy origin
    simp only [Router.take, h.front, List.countP_append, countP_isStop_start,
      Charge.running_cons]
    omega
  steady := by
    cases hf : router.frontEnd with
    | editor =>
      simp only [Router.take, hf, FrontEnd.start]
      exact h.steady.concat_of_isQuiet fun origin => rfl
    | log =>
      simp only [Router.take, hf, FrontEnd.start, List.append_nil]
      exact h.steady
  spills := by
    intro path code
    rw [show (router.take pathOf charge).files = filesFor pathOf charge router.files from rfl,
      h.get?_filesFor hinj hid]
    simp only [List.mem_cons, exists_eq_or_imp]
    by_cases hn : charge.spilled = true ∧ path = pathOf charge.id
    · rw [if_pos hn, Option.some.injEq, FileEntry.spilled.injEq]
      refine ⟨fun he => .inl ⟨hn.1, he, hn.2⟩, fun he => ?_⟩
      rcases he with ⟨-, he, -⟩ | ⟨other, ho, -, -, hpath⟩
      · exact he
      · -- No older request has this file.
        have hsame := hinj (hn.2.symm.trans hpath)
        exact absurd (List.mem_map.mpr ⟨other, ho, hsame.symm⟩) hid
    · rw [if_neg hn, h.spills]
      refine ⟨.inr, fun he => ?_⟩
      rcases he with ⟨hs, -, hpath⟩ | he
      · exact absurd ⟨hs, hpath⟩ hn
      · exact he
  clear := by
    intro id entry he
    have hg := h.get?_filesFor hinj hid (pathOf id)
    simp only [Router.take] at he
    rw [hg] at he
    split at he
    · rw [← Option.some.inj he]
      rfl
    · exact h.clear id entry he

/-- Spilled code lies where it did when a request has ended, but for its own. -/
theorem Accounts.get?_filesWithout (h : router.Accounts pathOf frontEnd charges) {charge : Charge}
    (hc : charge ∈ charges) (id : String) :
    (filesWithout (charge.registered pathOf) router.files).get? (pathOf id)
      = if charge.spilled = true ∧ pathOf id = pathOf charge.id then none
        else router.files.get? (pathOf id) := by
  cases hs : charge.spilled with
  | false =>
    rw [Charge.get?_filesWithout_of_not_spilled pathOf hs (h.away charge hc), if_neg (by simp)]
  | true =>
    have hfile := (h.spills (pathOf charge.id) charge.code).mpr ⟨charge, hc, hs, rfl, rfl⟩
    rw [Charge.filesWithout_of_spilled pathOf hs]
    by_cases hp : pathOf id = pathOf charge.id
    · rw [if_pos ⟨rfl, hp⟩, hp, Files.get?_delete_self hfile rfl]
    · rw [if_neg (fun hn => hp hn.2), Files.get?_delete_of_ne _ hp]

/-- A request that has ended, in whatever way, is a charge no longer. -/
theorem Accounts.discharge (h : router.Accounts pathOf frontEnd charges)
    (hinj : Function.Injective pathOf) {charge : Charge}
    (hc : charge ∈ charges) {events : List Event} (hi : AreIdle events)
    (hfront : next.frontEnd = router.frontEnd)
    (hfiles : next.files = filesWithout (charge.registered pathOf) router.files)
    (hlog : next.log = router.log ++ events ++ router.frontEnd.stop charge.job.origin) :
    next.Accounts pathOf frontEnd (charges.filter (·.id ≠ charge.id)) := by
  have hperm := Charge.perm_cons_others h.apart hc
  have hmem : ∀ other, other ∈ charges ↔
      other = charge ∨ other ∈ charges.filter (·.id ≠ charge.id) := fun other => by
    rw [hperm.mem_iff, List.mem_cons]
  have hbusy : ∀ origin, next.log.countP (isStart origin) = next.log.countP (isStop origin)
      + Charge.running frontEnd (charges.filter (·.id ≠ charge.id)) origin := by
    intro origin
    have hb := h.busy origin
    rw [Charge.running_of_perm hperm, Charge.running_cons] at hb
    rw [hlog, h.front]
    simp only [List.countP_append, hi.countP_isStart, hi.areQuiet origin, countP_isStart_stop,
      countP_isStop_stop]
    omega
  refine
    { front := hfront.trans h.front
      apart := h.apart.sublist (List.filter_sublist.map _)
      passive := fun other ho => h.passive other (List.mem_filter.mp ho).1
      away := fun other ho => h.away other (List.mem_filter.mp ho).1
      busy := hbusy
      steady := ?_
      spills := fun path code => ?_
      clear := fun id entry he => ?_ }
  · have hidle := h.steady.append_of_areIdle hi
    have hle : ∀ origin, next.log.countP (isStop origin) ≤ next.log.countP (isStart origin) :=
      fun origin => hbusy origin ▸ Nat.le_add_right _ _
    rw [hlog] at hle ⊢
    cases hf : router.frontEnd with
    | editor =>
      rw [hf] at hle
      exact hidle.concat hle
    | log =>
      rw [FrontEnd.stop, List.append_nil]
      exact hidle
  · rw [hfiles]
    constructor
    · intro he
      obtain ⟨other, ho, hfile⟩ := (h.spills path code).mp (Charge.get?_of_get?_filesWithout he)
      rcases (hmem other).mp ho with rfl | ho
      · rw [hfile.2.2, h.get?_filesWithout hc, if_pos ⟨hfile.1, rfl⟩] at he
        exact absurd he (by simp)
      · exact ⟨other, ho, hfile⟩
    · rintro ⟨other, ho, hfile⟩
      have hne : ¬ (charge.spilled = true ∧ pathOf other.id = pathOf charge.id) := fun hn =>
        absurd (hinj hn.2) (by simpa using (List.mem_filter.mp ho).2)
      have hold := (h.spills path code).mpr ⟨other, (List.mem_filter.mp ho).1, hfile⟩
      rw [hfile.2.2] at hold ⊢
      rw [h.get?_filesWithout hc, if_neg hne, hold]
  · rw [hfiles] at he
    exact h.clear id entry (Charge.get?_of_get?_filesWithout he)

end Router

end Routing

end ReplLink
