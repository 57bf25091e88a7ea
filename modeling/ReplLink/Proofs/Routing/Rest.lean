import ReplLink.Proofs.Routing.Machine

/-!
# A roster at rest

While callbacks run, some jobs are out of the roster and their ids are marked. When
a command is done, all that it marked is freed again, however deeply the commands
of callbacks are nested, so that between two commands nobody is out. If in addition
no callback that runs at the end of a connection registers anything, ending all
jobs leaves nothing registered.

Callbacks give commands that run callbacks. The proofs follow the weight of the
registered jobs and of the commands that are still to be given, as the definition
of `Router.perform` does.
-/

namespace ReplLink.Routing

/-- The callback does not register jobs. -/
def Callback.RegistersNothing : Callback → Prop
  | .run program => ∀ id job, Command.enter id job ∉ program
  | _ => True

/-- If the job is ended under a policy, nothing is registered on the way. The same
goes for all jobs that its callbacks register. -/
inductive JobOf.EndsQuietly (policy : Policy) : Job → Prop
  /-- Only under the failing policy a callback runs at the end. -/
  | intro {job : Job} (ending : policy = .fail → job.onFailure.RegistersNothing)
    (registered : ∀ outcome program, job.callback outcome = .run program →
      ∀ id other, Command.enter id other ∈ program → EndsQuietly policy other) :
    EndsQuietly policy job

theorem JobOf.EndsQuietly.ending {policy : Policy} {job : Job} (h : job.EndsQuietly policy)
    (hp : policy = .fail) : job.onFailure.RegistersNothing := by
  cases h with
  | intro ending registered => exact ending hp

theorem JobOf.EndsQuietly.registered {policy : Policy} {job : Job} (h : job.EndsQuietly policy)
    {outcome : Outcome} {program : List Command} (hc : job.callback outcome = .run program)
    {id : String} {other : Job} (hm : Command.enter id other ∈ program) :
    other.EndsQuietly policy := by
  cases h with
  | intro ending registered => exact registered outcome program hc id other hm

/-- Only the callbacks of a job matter. -/
theorem JobOf.EndsQuietly.congr {policy : Policy} {job other : Job} (h : job.EndsQuietly policy)
    (hs : other.onSuccess = job.onSuccess) (hf : other.onFailure = job.onFailure) :
    other.EndsQuietly policy := by
  refine .intro (fun hp => hf ▸ h.ending hp) fun outcome program hc id entered hm => ?_
  have hcallback : job.callback outcome = .run program := by
    rw [← hc]
    cases outcome with
    | success value => exact hs.symm
    | failure failure => exact hf.symm
  exact h.registered hcallback hm

/-- So does a job whose callbacks give no commands. -/
theorem JobOf.IsPassive.endsQuietly {job : Job} (h : job.IsPassive) (policy : Policy) :
    job.EndsQuietly policy := by
  refine .intro (fun _ => ?_) fun outcome program hc id other _ => ?_
  · have hf := h.2
    unfold Callback.RegistersNothing
    split
    · next program hc =>
      rw [hc] at hf
      exact absurd hf (by simp [Callback.isPassive])
    · trivial
  · have hpassive := h.callback outcome
    rw [hc] at hpassive
    exact absurd hpassive (by simp [Callback.isPassive])

namespace Roster

/-- Each id is registered once, exactly the given ones are out, and the jobs that
wait end quietly. -/
structure InOrder (policy : Policy) (outs : String → Prop) (roster : Roster) : Prop where
  /-- Each id is registered once. -/
  apart : roster.keys.Nodup
  /-- The ids that are marked. -/
  out : ∀ id, roster.get? id = some .out ↔ outs id
  /-- Whatever waits ends quietly. -/
  quiet : ∀ id job, roster.heldUnder id = some job → job.EndsQuietly policy

/-- Nobody is out. -/
def IsAtRest (policy : Policy) (roster : Roster) : Prop := roster.InOrder policy fun _ => False

variable {policy : Policy} {outs : String → Prop} {roster : Roster}

theorem isAtRest_empty (policy : Policy) : IsAtRest policy .empty where
  apart := List.nodup_nil
  out := fun _ => ⟨fun h => (nomatch h), False.elim⟩
  quiet := fun _ _ h => nomatch h

/-- One more job waits. -/
theorem InOrder.put_held (h : roster.InOrder policy outs) {id : String} {job : Job}
    (hn : roster.get? id = none) (hq : job.EndsQuietly policy) :
    InOrder policy outs (roster.put id (.held job)) where
  apart := Keyed.nodup_keys_put h.apart id _
  out := by
    intro other
    by_cases ho : other = id
    · have hnot : ¬outs other := fun hout => by
        rw [← h.out, ho, hn] at hout
        exact absurd hout (by simp)
      rw [ho, Keyed.get?_put_self]
      exact ⟨fun he => absurd he (by simp), fun hout => absurd (ho ▸ hout) hnot⟩
    · rw [Keyed.get?_put_of_ne _ _ ho]
      exact h.out other
  quiet := by
    intro other found hf
    rcases heldUnder_put hf with ⟨-, rfl⟩ | hf
    · exact hq
    · exact h.quiet other found hf

/-- A job goes out. -/
theorem InOrder.put_out (h : roster.InOrder policy outs) (id : String) :
    InOrder policy (fun other => other = id ∨ outs other) (roster.put id .out) where
  apart := Keyed.nodup_keys_put h.apart id _
  out := by
    intro other
    by_cases ho : other = id
    · rw [ho, Keyed.get?_put_self]
      exact ⟨fun _ => .inl rfl, fun _ => rfl⟩
    · rw [Keyed.get?_put_of_ne _ _ ho, h.out other]
      exact ⟨.inr, fun hor => hor.resolve_left ho⟩
  quiet := by
    intro other found hf
    by_cases ho : other = id
    · rw [ho, heldUnder, Keyed.get?_put_self] at hf
      exact absurd hf (by simp)
    · rw [heldUnder, Keyed.get?_put_of_ne _ _ ho] at hf
      exact h.quiet other found hf

/-- An id is freed, with the job that was out under it or that waited. -/
theorem InOrder.erase (h : roster.InOrder policy outs) {id : String} {others : String → Prop}
    (ho : ∀ other, others other ↔ other ≠ id ∧ outs other) :
    InOrder policy others (roster.erase id) where
  apart := Keyed.nodup_keys_erase h.apart id
  out := by
    intro other
    rw [ho]
    by_cases he : other = id
    · rw [he, Keyed.get?_erase_self]
      exact ⟨fun hn => absurd hn (by simp), fun hn => absurd rfl hn.1⟩
    · rw [Keyed.get?_erase_of_ne _ he, h.out other]
      exact ⟨fun hout => ⟨he, hout⟩, And.right⟩
  quiet := fun other found hf => h.quiet other found (heldUnder_of_erase hf).2

/-- All that wait are taken out. -/
theorem InOrder.checkedOut (h : roster.InOrder policy outs) :
    InOrder policy outs roster.checkedOut where
  apart := nodup_keys_checkedOut h.apart
  out := by
    intro id
    rw [← mem_outIds_iff (nodup_keys_checkedOut h.apart), outIds_checkedOut,
      mem_outIds_iff h.apart]
    exact h.out id
  quiet := by
    intro id job hh
    rw [← mem_waiting_iff (nodup_keys_checkedOut h.apart), waiting_checkedOut] at hh
    exact absurd hh List.not_mem_nil

theorem InOrder.of_mem_waiting (h : roster.InOrder policy outs) {id : String} {job : Job}
    (hm : (id, job) ∈ roster.waiting) : job.EndsQuietly policy :=
  h.quiet id job ((mem_waiting_iff h.apart).mp hm)

/-- Of a roster at rest nothing is left when all that wait are taken out. -/
theorem IsAtRest.checkedOut_eq (h : roster.IsAtRest policy) : roster.checkedOut = .empty := by
  have hnone : roster.outIds = [] :=
    List.eq_nil_iff_forall_not_mem.mpr fun id hm =>
      (h.out id).mp ((mem_outIds_iff h.apart).mp hm)
  have hkeys : roster.checkedOut.keys = [] := by
    have hperm := keys_perm roster.checkedOut
    rw [waiting_checkedOut, outIds_checkedOut, hnone] at hperm
    exact List.perm_nil.mp hperm
  have hentries : roster.checkedOut.entries = [] := List.map_eq_nil_iff.mp hkeys
  exact congrArg Keyed.mk hentries

end Roster

namespace Router

@[simp] theorem roster_note (router : Router) (events : List Event) :
    (router.note events).roster = router.roster := rfl

@[simp] theorem roster_showFailure (router : Router) (job : Job) (outcome : Outcome) :
    (router.showFailure job outcome).roster = router.roster := by
  rw [showFailure_eq, roster_note]

@[simp] theorem roster_notePanic (router : Router) (id : String) (panic : Option Panic) :
    (router.notePanic id panic).roster = router.roster := by
  rw [notePanic_eq, roster_note]

@[simp] theorem roster_release (router : Router) (job : Job) :
    (router.release job).roster = router.roster := by
  rw [release_eq]

@[simp] theorem roster_tell (router : Router) (job : Job) (word : Word) :
    (router.tell job word).roster = router.roster := by
  unfold tell
  split <;> rfl

/-- What a job's end leaves in the roster is what the callback leaves there. -/
theorem roster_endOne (router : Router) (policy : Policy) (id : String) (job : Job) :
    (router.endOne policy id job).roster
      = ((router.note [.notice (.ended id job.origin policy)]).dismiss policy job).1.roster := by
  rw [endOne_eq, roster_tell, roster_release, roster_notePanic]

section Order

variable {policy : Policy}

/-- Programs that, with the registered jobs, weigh less than a bound leave out who
was out before. -/
def KeepsOrder (policy : Policy) (bound : Nat) : Prop :=
  ∀ (router : Router) (program : List Command) (outs : String → Prop),
    router.roster.InOrder policy outs →
    (∀ id job, Command.enter id job ∈ program → job.EndsQuietly policy) →
    router.weight + Command.weights program < bound →
    (router.performAll program).roster.InOrder policy outs

/-- So do the callbacks of a job. -/
theorem inOrder_call {bound : Nat} (h : KeepsOrder policy bound) {router : Router} {job : Job}
    {outs : String → Prop} (hr : router.roster.InOrder policy outs)
    (hq : job.EndsQuietly policy) (outcome : Outcome)
    (hw : router.weight + (job.callback outcome).weight ≤ bound) :
    (router.call job outcome (job.callback outcome)).1.roster.InOrder policy outs := by
  cases hc : job.callback outcome with
  | run program =>
    rw [hc, Callback.weight] at hw
    rw [call_run]
    refine h _ program outs hr (fun id other hm => hq.registered hc hm) ?_
    rw [weight_note]
    omega
  | silent => rwa [call_silent]
  | report => rwa [call_report]
  | acknowledge => rwa [call_acknowledge]
  | panic what => rwa [call_panic]

/-- So does the end of a job whose connection went away. -/
theorem inOrder_endOne {bound : Nat} (h : KeepsOrder policy bound) {router : Router}
    {outs : String → Prop} (hr : router.roster.InOrder policy outs) (ending : Policy) (id : String)
    {job : Job} (hq : job.EndsQuietly policy)
    (hw : router.weight + job.onFailure.weight ≤ bound) :
    (router.endOne ending id job).roster.InOrder policy outs := by
  have hnoted : (router.note [.notice (.ended id job.origin ending)]).roster.InOrder policy outs :=
    hr
  rw [roster_endOne]
  cases ending with
  | abandon => exact hr
  | fail => exact inOrder_call h hnoted hq (.failure connectionLost) hw

theorem inOrder_endAll {bound : Nat} (h : KeepsOrder policy bound) {outs : String → Prop}
    (ending : Policy) {jobs : List (String × Job)}
    (hq : ∀ pair ∈ jobs, pair.2.EndsQuietly policy) {router : Router}
    (hr : router.roster.InOrder policy outs)
    (hw : router.weight + Roster.jobsWeight jobs ≤ bound) :
    (router.endAll ending jobs).roster.InOrder policy outs := by
  induction jobs generalizing router with
  | nil => rwa [endAll_nil]
  | cons pair rest ih =>
    obtain ⟨id, job⟩ := pair
    obtain ⟨hjob, hrest⟩ := List.forall_mem_cons.mp hq
    have hlight := weight_callback_lt job (.failure connectionLost)
    have hle := weight_endOne_le router ending id job
    rw [Roster.jobsWeight] at hw
    rw [JobOf.callback] at hlight
    rw [endAll_cons]
    exact ih hrest (inOrder_endOne h hr ending id hjob (by omega)) (by omega)

/-- A response marks the id of its job and frees it in the end. -/
theorem inOrder_route {bound : Nat} (h : KeepsOrder policy bound) {router : Router}
    {outs : String → Prop} (hr : router.roster.InOrder policy outs) (response : Response)
    (hw : router.weight ≤ bound) :
    (router.perform (.route response)).1.roster.InOrder policy outs := by
  rw [perform_route, Roster.checkOut_eq]
  cases hh : router.roster.heldUnder response.requestId with
  | none => exact hr
  | some job =>
    have hchecked : Roster.checkOut router.roster response.requestId
        = some (job, router.roster.put response.requestId .out) := by
      rw [Roster.checkOut_eq, hh]
      rfl
    have hleft := Roster.weight_checkOut_le hchecked
    have hlight := weight_callback_lt job response.outcome
    have hm : router.weight = Roster.weight router.roster := rfl
    let shown := showFailure
      { router with roster := router.roster.put response.requestId .out } job response.outcome
    have hshown : shown.roster = router.roster.put response.requestId .out :=
      roster_showFailure _ job response.outcome
    have hweight : shown.weight
        = Roster.weight (router.roster.put response.requestId .out) := by rw [weight, hshown]
    have hout := hr.put_out response.requestId
    rw [← hshown] at hout
    have hcalled := inOrder_call h hout (hr.quiet _ job hh) response.outcome (by omega)
    have hnot : ¬outs response.requestId := fun ho => by
      have hget := (hr.out _).mpr ho
      rw [Roster.get?_of_heldUnder hh] at hget
      exact absurd hget (by simp)
    dsimp only [Option.map_some]
    rw [finish_eq]
    refine hcalled.erase fun other => ⟨fun ho => ⟨fun he => hnot (he ▸ ho), .inr ho⟩, ?_⟩
    exact fun ho => ho.2.resolve_left ho.1

/-- Every command leaves out who was out before. -/
theorem inOrder_perform_within {bound : Nat} (h : KeepsOrder policy bound) {router : Router}
    {outs : String → Prop} (hr : router.roster.InOrder policy outs) {command : Command}
    (hq : ∀ id job, command = .enter id job → job.EndsQuietly policy)
    (hw : router.weight + command.weight ≤ bound) :
    (router.perform command).1.roster.InOrder policy outs := by
  have hlight : router.weight ≤ bound := Nat.le_of_add_right_le hw
  cases command with
  | enter id job =>
    rw [perform_enter, Roster.enter?]
    cases hc : router.roster.get? id with
    | some holding =>
      rw [Keyed.contains, hc]
      exact hr
    | none =>
      rw [Keyed.contains, hc]
      exact hr.put_held hc (hq id job rfl)
  | route response => exact inOrder_route h hr response hlight
  | endAll ending =>
    have hleft := Roster.weight_takeAll_le router.roster
    rw [perform_endAll]
    refine inOrder_endAll h ending (fun pair hp => hr.of_mem_waiting hp) hr.checkedOut ?_
    rw [Nat.add_comm]
    exact Nat.le_trans hleft hlight
  | contains id => simpa [perform, performWithin] using hr
  | size => simpa [perform, performWithin] using hr
  | describe job =>
    simp only [perform, performWithin]
    exact hr
  | summary => simpa [perform, performWithin] using hr
  | deleteFile path => simpa [perform, performWithin] using hr

/-- Programs of any weight leave out who was out before. -/
theorem keepsOrder (policy : Policy) (bound : Nat) : KeepsOrder policy bound := by
  induction bound with
  | zero =>
    intro router program outs _ _ hw
    exact absurd hw (Nat.not_lt_zero _)
  | succ bound ih =>
    intro router program outs hr hq hw
    induction program generalizing router with
    | nil => rwa [performAll_nil]
    | cons command rest inner =>
      rw [Command.weights] at hw
      have hweight := weight_perform_le router command
      have hfirst := inOrder_perform_within ih hr
        (fun id job he => hq id job (he ▸ List.mem_cons_self)) (by omega)
      rw [performAll_cons]
      refine inner _ hfirst (fun id job hm => hq id job (List.mem_cons_of_mem _ hm)) ?_
      rw [weight_note]
      omega

/-- Between two commands nobody is out. -/
theorem isAtRest_perform {router : Router} (hr : router.roster.IsAtRest policy)
    {command : Command} (hq : ∀ id job, command = .enter id job → job.EndsQuietly policy) :
    (router.perform command).1.roster.IsAtRest policy :=
  inOrder_perform_within (keepsOrder policy _) hr hq (Nat.le_refl _)

end Order

section Ending

/-- A response that nobody waits for leaves a line in the log. -/
theorem perform_route_of_empty {router : Router} (h : router.roster = .empty)
    (response : Response) :
    router.perform (.route response)
      = (router.note [.notice (.unknownResponse response.requestId)],
          .refused (.idUnknown response.requestId)) := by
  rw [perform_route, h]
  rfl

/-- When nothing is registered, ending all jobs does nothing. -/
theorem perform_endAll_of_empty {router : Router} (h : router.roster = .empty)
    (policy : Policy) : router.perform (.endAll policy) = (router, .count 0) := by
  obtain ⟨frontEnd, roster, files, words, log⟩ := router
  dsimp only at h
  subst h
  rw [perform_endAll]
  exact congrArg (·, Reply.count 0) (endAll_nil _ policy)

/-- Where nothing is registered, a command that registers nothing leaves it so, and tells
nobody anything. -/
theorem perform_of_empty {command : Command} (hc : ∀ id job, command ≠ .enter id job)
    {router : Router} (h : router.roster = .empty) :
    (router.perform command).1.roster = .empty ∧
      (router.perform command).1.words = router.words := by
  cases command with
  | enter id job => exact absurd rfl (hc id job)
  | route response =>
    rw [perform_route_of_empty h]
    exact ⟨h, rfl⟩
  | endAll policy =>
    rw [perform_endAll_of_empty h]
    exact ⟨h, rfl⟩
  | contains id => simpa [perform, performWithin] using h
  | size => simpa [perform, performWithin] using h
  | describe job => simpa [perform, performWithin, layFiles] using h
  | summary => simpa [perform, performWithin] using h
  | deleteFile path => simpa [perform, performWithin] using h

/-- So do any number of such commands. -/
theorem performAll_of_empty {program : List Command}
    (hp : ∀ id job, Command.enter id job ∉ program) {router : Router}
    (h : router.roster = .empty) :
    (router.performAll program).roster = .empty ∧
      (router.performAll program).words = router.words := by
  induction program generalizing router with
  | nil =>
    rw [performAll_nil]
    exact ⟨h, rfl⟩
  | cons command rest ih =>
    obtain ⟨hroster, hwords⟩ := @perform_of_empty command
      (fun id job he => hp id job (he ▸ List.mem_cons_self)) router h
    let performed := (router.perform command).1.note
      [.nested (router.perform command).2 (router.perform command).1.ids]
    have hempty : performed.roster = .empty := hroster
    obtain ⟨hlast, htold⟩ := ih (fun id job hm => hp id job (List.mem_cons_of_mem _ hm)) hempty
    rw [performAll_cons]
    exact ⟨hlast, htold.trans hwords⟩

/-- So does a callback that registers nothing. -/
theorem call_of_empty {callback : Callback} (hc : callback.RegistersNothing)
    {router : Router} (h : router.roster = .empty) (job : Job) (outcome : Outcome) :
    (router.call job outcome callback).1.roster = .empty ∧
      (router.call job outcome callback).1.words = router.words := by
  cases callback with
  | run program =>
    let announced := router.note (Callback.announce (.run program) job outcome)
    have hempty : announced.roster = .empty := h
    rw [call_run]
    exact performAll_of_empty hc hempty
  | silent =>
    rw [call_silent]
    exact ⟨h, rfl⟩
  | report =>
    rw [call_report]
    exact ⟨h, rfl⟩
  | acknowledge =>
    rw [call_acknowledge]
    exact ⟨h, rfl⟩
  | panic what =>
    rw [call_panic]
    exact ⟨h, rfl⟩

/-- When a job that has been taken out ends with its connection, its caller is told the last
word of the policy, and nobody else is told anything. -/
theorem endOne_of_empty {policy : Policy} {job : Job} (hq : job.EndsQuietly policy)
    {router : Router} (h : router.roster = .empty) (id : String) :
    (router.endOne policy id job).roster = .empty ∧
      (router.endOne policy id job).words = wordsOf job (lastWord policy) ++ router.words := by
  let noted := router.note [.notice (.ended id job.origin policy)]
  have hnoted : noted.roster = .empty := h
  have hdismissed : (noted.dismiss policy job).1.roster = .empty ∧
      (noted.dismiss policy job).1.words = router.words := by
    cases policy with
    | abandon => exact ⟨h, rfl⟩
    | fail => exact call_of_empty (hq.ending rfl) hnoted job (.failure connectionLost)
  rw [endOne_eq, tell_eq, release_eq, notePanic_eq]
  exact ⟨hdismissed.1, congrArg (wordsOf job (lastWord policy) ++ ·) hdismissed.2⟩

/-- So are all callers of the jobs that are ended. -/
theorem endAll_of_empty {policy : Policy} {jobs : List (String × Job)}
    (hq : ∀ pair ∈ jobs, pair.2.EndsQuietly policy) {router : Router}
    (h : router.roster = .empty) :
    (router.endAll policy jobs).roster = .empty ∧
      ∀ waiter, (router.endAll policy jobs).wordFor waiter
        = if ∃ pair ∈ jobs, pair.2.waiter = some waiter then some (lastWord policy)
          else router.wordFor waiter := by
  induction jobs generalizing router with
  | nil =>
    rw [endAll_nil]
    exact ⟨h, fun waiter => (if_neg (by simp)).symm⟩
  | cons pair rest ih =>
    obtain ⟨id, job⟩ := pair
    obtain ⟨hjob, hrest⟩ := List.forall_mem_cons.mp hq
    obtain ⟨hroster, hwords⟩ := endOne_of_empty hjob h id
    obtain ⟨hlast, htold⟩ := ih hrest hroster
    have hone (waiter : Nat) : (router.endOne policy id job).wordFor waiter
        = if job.waiter = some waiter then some (lastWord policy) else router.wordFor waiter := by
      rw [wordFor, hwords, wordsOf]
      cases job.waiter with
      | none => rfl
      | some other =>
        by_cases ho : waiter = other
        · rw [ho, if_pos rfl]
          exact List.lookup_cons_self
        · have hb : (waiter == other) = false := beq_eq_false_iff_ne.mpr ho
          rw [if_neg fun he => ho (Option.some.inj he).symm]
          exact (List.lookup_cons).trans (by rw [hb]; rfl)
    rw [endAll_cons]
    refine ⟨hlast, fun waiter => ?_⟩
    have hsplit : (∃ pair ∈ (id, job) :: rest, pair.2.waiter = some waiter)
        ↔ job.waiter = some waiter ∨ ∃ pair ∈ rest, pair.2.waiter = some waiter := by simp
    rw [htold, hone]
    by_cases hother : ∃ pair ∈ rest, pair.2.waiter = some waiter
    · rw [if_pos hother, if_pos (hsplit.mpr (.inr hother))]
    · simp only [hsplit, hother, if_false, or_false]

/-- Between two commands, ending all jobs leaves nothing registered. -/
theorem roster_perform_endAll {policy : Policy} {router : Router}
    (h : router.roster.IsAtRest policy) :
    (router.perform (.endAll policy)).1.roster = .empty := by
  rw [perform_endAll]
  exact (endAll_of_empty (fun pair hp => h.of_mem_waiting hp) h.checkedOut_eq).1

/-- The callers of all jobs that waited are told the last word of the policy. -/
theorem wordFor_perform_endAll {policy : Policy} {router : Router}
    (h : router.roster.IsAtRest policy) {id : String} {job : Job}
    (hj : router.roster.heldUnder id = some job) {waiter : Nat} (hw : job.waiter = some waiter) :
    (router.perform (.endAll policy)).1.wordFor waiter = some (lastWord policy) := by
  have hm : (id, job) ∈ router.roster.waiting := (Roster.mem_waiting_iff h.apart).mpr hj
  have htold := (@endAll_of_empty policy router.roster.waiting
    (fun pair hp => h.of_mem_waiting hp) { router with roster := router.roster.checkedOut }
    h.checkedOut_eq).2 waiter
  rw [perform_endAll]
  exact htold.trans (if_pos ⟨(id, job), hm, hw⟩)

end Ending

end Router

end ReplLink.Routing
