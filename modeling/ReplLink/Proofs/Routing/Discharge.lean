import ReplLink.Proofs.Routing.Charges

/-!
# Every way for a request to end

A router whose roster lists just the requests that it is charged with is
`IsCharged`. It stays so when a request is entered or taken back, when a response
is routed, whether or not it reaches a request and whether or not a callback
fails, and when all requests are ended.
-/

namespace ReplLink.Routing

/-- All that is seen of a job with passive callbacks whose connection goes away,
up to the end of its busy time. -/
def dismissalEvents (policy : Policy) (id : String) (job : Job) : List Event :=
  .notice (.ended id job.origin policy)
    :: ((match policy with
        | .abandon => []
        | .fail => job.onFailure.announce job (.failure Router.connectionLost))
      ++ panicEvents id (policy.panic? job))

theorem areIdle_dismissalEvents (policy : Policy) (id : String) (job : Job) :
    AreIdle (dismissalEvents policy id job) := by
  refine AreIdle.append (areIdle_notice _) (AreIdle.append ?_ (areIdle_panicEvents _ _))
  cases policy with
  | abandon => exact areIdle_nil
  | fail => exact areIdle_announce _ _ _

namespace Router

variable {pathOf : String → String} {frontEnd : FrontEnd} {router : Router}
  {charges : List Charge}

/-- A job with passive callbacks ends with its connection. -/
theorem endOne_of_isPassive (router : Router) (policy : Policy) (id : String) {job : Job}
    (hp : job.IsPassive) :
    router.endOne policy id job
      = { frontEnd := router.frontEnd
          roster := router.roster
          files := filesWithout job router.files
          words := wordsOf job (lastWord policy) ++ router.words
          log := router.log ++ dismissalEvents policy id job
            ++ router.frontEnd.stop job.origin } := by
  rw [endOne_eq, notePanic_eq, release_eq, tell_eq]
  cases policy with
  | abandon =>
    simp only [dismiss, note, dismissalEvents, List.append_assoc, List.cons_append,
      List.nil_append]
  | fail =>
    rw [dismiss, call_of_isPassive hp.2]
    simp only [note, dismissalEvents, List.append_assoc, List.cons_append, List.nil_append]

/-- What is seen of a settled job ends with the end of its busy time. -/
theorem exists_log_settle (router : Router) (answer : Response) (job : Job) :
    ∃ events, AreIdle events ∧
      (router.settle answer job).log = router.log ++ events ++ router.frontEnd.stop job.origin := by
  refine ⟨_, ((areIdle_shownEvents router.frontEnd job answer.outcome).append
    (areIdle_announce (job.callback answer.outcome) job answer.outcome)).append
    (areIdle_panicEvents answer.requestId (job.callback answer.outcome).panic?), ?_⟩
  rw [List.append_assoc]
  rfl

/-- Requests that are ended one after the other are charges no longer. -/
theorem Accounts.endAll (h : router.Accounts pathOf frontEnd charges)
    (hinj : Function.Injective pathOf) (policy : Policy)
    {jobs : List (String × Job)} (hj : jobs.Perm (charges.map (Charge.listed pathOf))) :
    (router.endAll policy jobs).Accounts pathOf frontEnd [] ∧
      (router.endAll policy jobs).roster = router.roster := by
  induction jobs generalizing router charges with
  | nil =>
    rw [endAll_nil]
    exact ⟨List.map_eq_nil_iff.mp hj.nil_eq.symm ▸ h, rfl⟩
  | cons pair rest ih =>
    obtain ⟨charge, hc, rfl⟩ := List.mem_map.mp (hj.mem_iff.mp List.mem_cons_self)
    have hrest := hj.trans ((Charge.perm_cons_others h.apart hc).map (Charge.listed pathOf))
    rw [Charge.listed, endAll_cons,
      endOne_of_isPassive _ _ _ (Charge.isPassive_registered pathOf (h.passive charge hc))]
    refine ih (h.discharge hinj hc (areIdle_dismissalEvents policy charge.id
      (charge.registered pathOf)) rfl rfl ?_) hrest.cons_inv
    rw [Charge.origin_registered]

/-- A router is charged with just these requests: the roster lists them, none of
them is being resolved, and log and files tell of them. -/
structure IsCharged (pathOf : String → String) (frontEnd : FrontEnd) (router : Router)
    (charges : List Charge) : Prop where
  /-- The log and the files tell of the requests. -/
  accounts : router.Accounts pathOf frontEnd charges
  /-- No id is registered twice. -/
  keys : router.roster.keys.Nodup
  /-- No callback runs. -/
  home : router.roster.outIds = []
  /-- The requests wait for their responses. -/
  waiting : router.roster.waiting.Perm (charges.map (Charge.listed pathOf))

theorem isCharged_idle (pathOf : String → String) (frontEnd : FrontEnd) :
    (idle frontEnd).IsCharged pathOf frontEnd [] where
  accounts := accounts_idle pathOf frontEnd
  keys := List.nodup_nil
  home := rfl
  waiting := List.Perm.refl []

/-- What waits under an id is what was registered for a request with that id. -/
theorem IsCharged.heldUnder_iff (h : router.IsCharged pathOf frontEnd charges) {id : String}
    {job : Job} :
    router.roster.heldUnder id = some job ↔
      ∃ charge ∈ charges, charge.id = id ∧ charge.registered pathOf = job := by
  rw [← Roster.mem_waiting_iff h.keys, h.waiting.mem_iff, List.mem_map]
  simp only [Charge.listed, Prod.mk.injEq]

/-- The registered ids are those of the outstanding requests. -/
theorem IsCharged.ids_perm (h : router.IsCharged pathOf frontEnd charges) :
    router.ids.Perm (charges.map (·.id)) := by
  have hk := Roster.keys_perm router.roster
  rw [h.home, List.append_nil] at hk
  have hw := h.waiting.map (·.1)
  rw [List.map_map] at hw
  exact hk.trans hw

/-- An id under which nothing waits is the id of no outstanding request. -/
theorem IsCharged.not_mem_of_heldUnder (h : router.IsCharged pathOf frontEnd charges)
    {id : String} (hid : router.roster.heldUnder id = none) : id ∉ charges.map (·.id) := by
  intro hm
  obtain ⟨charge, hc, he⟩ := List.mem_map.mp hm
  rw [h.heldUnder_iff.mpr ⟨charge, hc, he, rfl⟩] at hid
  exact absurd hid (by simp)

theorem IsCharged.note (h : router.IsCharged pathOf frontEnd charges) {events : List Event}
    (hi : AreIdle events) : (router.note events).IsCharged pathOf frontEnd charges where
  accounts := h.accounts.idle_log hi rfl rfl rfl
  keys := h.keys
  home := h.home
  waiting := h.waiting

/-- A request is entered under a free id. -/
theorem IsCharged.take (h : router.IsCharged pathOf frontEnd charges)
    (hinj : Function.Injective pathOf) {charge : Charge}
    (hid : router.roster.get? charge.id = none) (hp : charge.job.IsPassive)
    (hk : charge.job.KeepsOff pathOf) :
    (router.take pathOf charge).IsCharged pathOf frontEnd (charge :: charges) where
  accounts := by
    have hnone : router.roster.heldUnder charge.id = none := by rw [Roster.heldUnder, hid]
    exact h.accounts.take hinj (h.not_mem_of_heldUnder hnone) hp hk
  keys := Keyed.nodup_keys_put h.keys _ _
  home := (h.home ▸ Roster.outIds_enter hid (charge.registered pathOf)).eq_nil
  waiting := (Roster.waiting_enter hid (charge.registered pathOf)).trans (h.waiting.cons _)

/-- A request that waits has ended. -/
theorem IsCharged.discharge {next : Router} (h : router.IsCharged pathOf frontEnd charges)
    (hinj : Function.Injective pathOf) {charge : Charge}
    (hc : charge ∈ charges) {events : List Event} (hi : AreIdle events)
    (hfront : next.frontEnd = router.frontEnd)
    (hroster : next.roster = router.roster.erase charge.id)
    (hfiles : next.files = filesWithout (charge.registered pathOf) router.files)
    (hlog : next.log = router.log ++ events ++ router.frontEnd.stop charge.job.origin) :
    next.IsCharged pathOf frontEnd (charges.filter (·.id ≠ charge.id)) := by
  have hheld := h.heldUnder_iff.mpr ⟨charge, hc, rfl, rfl⟩
  have hwaiting := (Roster.waiting_takeAway h.keys hheld).symm.trans
    (h.waiting.trans ((Charge.perm_cons_others h.accounts.apart hc).map (Charge.listed pathOf)))
  exact
    { accounts := h.accounts.discharge hinj hc hi hfront hfiles hlog
      keys := hroster ▸ Keyed.nodup_keys_erase h.keys charge.id
      home := hroster ▸ (h.home ▸ (Roster.outIds_takeAway h.keys hheld).symm).eq_nil
      waiting := hroster ▸ hwaiting.cons_inv }

/-- A response ends the request that waits under its id, if there is one. -/
theorem IsCharged.route (h : router.IsCharged pathOf frontEnd charges)
    (hinj : Function.Injective pathOf) (answer : Response) :
    (router.perform (.route answer)).1.IsCharged pathOf frontEnd
      (charges.filter (·.id ≠ answer.requestId)) := by
  cases hh : router.roster.heldUnder answer.requestId with
  | none =>
    rw [perform_route_of_none hh, Charge.filter_of_not_mem (h.not_mem_of_heldUnder hh)]
    exact h.note (areIdle_notice _)
  | some job =>
    obtain ⟨charge, hc, hid, rfl⟩ := h.heldUnder_iff.mp hh
    have hp := Charge.isPassive_registered pathOf (h.accounts.passive charge hc)
    rw [perform_route_of_held hh hp, ← hid]
    obtain ⟨events, hi, hlog⟩ := exists_log_settle router answer (charge.registered pathOf)
    exact h.discharge hinj hc hi rfl (hid ▸ rfl) rfl (Charge.origin_registered pathOf charge ▸ hlog)

/-- All requests are ended. -/
theorem IsCharged.endAll (h : router.IsCharged pathOf frontEnd charges)
    (hinj : Function.Injective pathOf) (policy : Policy) :
    (router.perform (.endAll policy)).1.IsCharged pathOf frontEnd [] := by
  have haccounts : Accounts pathOf frontEnd { router with roster := router.roster.checkedOut }
      charges :=
    h.accounts.idle_log areIdle_nil rfl rfl (List.append_nil _).symm
  obtain ⟨hended, hroster⟩ := haccounts.endAll hinj policy h.waiting
  rw [perform_endAll]
  exact
    { accounts := hended
      keys := hroster ▸ Roster.nodup_keys_checkedOut h.keys
      home := by
        rw [Roster.takeAll, hroster, Roster.outIds_checkedOut, h.home]
      waiting := by
        rw [Roster.takeAll, hroster, Roster.waiting_checkedOut]
        exact List.Perm.refl [] }

/-- Files of others lie elsewhere. -/
theorem IsCharged.files_elsewhere (h : router.IsCharged pathOf frontEnd charges) {path : String}
    (hpath : ∀ id, path ≠ pathOf id) {files : Files}
    (hsame : ∀ other, other ≠ path → files.get? other = router.files.get? other)
    (hown : ∀ code, files.get? path ≠ some (.spilled code)) :
    IsCharged pathOf frontEnd { router with files } charges where
  accounts :=
    { front := h.accounts.front
      apart := h.accounts.apart
      passive := h.accounts.passive
      away := h.accounts.away
      busy := h.accounts.busy
      steady := h.accounts.steady
      spills := fun other code => by
        by_cases he : other = path
        · constructor
          · intro hg
            exact absurd (he ▸ hg) (hown code)
          · rintro ⟨charge, -, -, -, hc⟩
            exact absurd (he.symm.trans hc) (hpath charge.id)
        · rw [hsame other he, h.accounts.spills]
      clear := fun id entry hg => by
        rw [hsame _ (Ne.symm (hpath id))] at hg
        exact h.accounts.clear id entry hg }
  keys := h.keys
  home := h.home
  waiting := h.waiting

/-- So does a file that somebody else puts there, -/
theorem IsCharged.lay (h : router.IsCharged pathOf frontEnd charges) {attachment : Attachment}
    (hpath : ∀ id, attachment.path ≠ pathOf id) (hentry : attachment.entry.isSpilled = false) :
    IsCharged pathOf frontEnd { router with files := router.files.lay attachment } charges := by
  refine h.files_elsewhere hpath (fun other ho => Files.get?_lay_of_ne _ ho) fun code hc => ?_
  rcases Files.get?_lay_self router.files attachment with hnew | hold
  · rw [hnew, Option.some.injEq] at hc
    rw [hc] at hentry
    exact absurd hentry (by simp [FileEntry.isSpilled])
  · rw [hold] at hc
    obtain ⟨charge, -, -, -, hcharge⟩ := (h.accounts.spills _ _).mp hc
    exact hpath charge.id hcharge

/-- and one that somebody else deletes. -/
theorem IsCharged.deleteFile (h : router.IsCharged pathOf frontEnd charges) {path : String}
    (hpath : ∀ id, path ≠ pathOf id) :
    (router.perform (.deleteFile path)).1.IsCharged pathOf frontEnd charges := by
  have hd : (router.perform (.deleteFile path)).1
      = { router with files := router.files.delete path } := by
    simp [perform, performWithin]
  rw [hd]
  refine h.files_elsewhere hpath (fun other ho => Files.get?_delete_of_ne _ ho) fun code hc => ?_
  obtain ⟨charge, -, -, -, hcharge⟩ := (h.accounts.spills _ _).mp (Files.get?_of_get?_delete hc)
  exact hpath charge.id hcharge

end Router

end ReplLink.Routing
