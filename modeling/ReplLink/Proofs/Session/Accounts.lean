import ReplLink.Proofs.Routing.Discharge
import ReplLink.Proofs.Routing.RequestId
import ReplLink.Proofs.Session.Outstanding

/-!
# The accounts of a session

Whatever a session does, its busy times and its spilled code are those of the
requests that are outstanding. `Evolves` says what can become of a session, deed
by deed, and writes down the outstanding requests as their senders gave them.
Every deed keeps the accounts.
-/

namespace ReplLink.Session

open ReplLink.Routing ReplLink.Stream ReplLink.Text

/-- No two ids have the same file. -/
theorem spillPath_injective (session : Session) : Function.Injective session.spillPath :=
  fun _ _ h => (String.append_right_inj _).mp h

theorem spillPath_congr {now start : Session} (h : now.spillDirectory = start.spillDirectory) :
    now.spillPath = start.spillPath := by
  funext id
  rw [spillPath, h, spillPath]

variable {session : Session} {frontEnd : FrontEnd} {charges : List Charge}

/-- A request whose line cannot be written is taken back. -/
theorem isCharged_takeBack (session : Session) {charge : Charge}
    (h : session.router.IsCharged session.spillPath frontEnd (charge :: charges))
    (error : SessionError) :
    (session.takeBack charge.id error).spillDirectory = session.spillDirectory ∧
      (session.takeBack charge.id error).router.IsCharged session.spillPath frontEnd charges := by
  have hheld := h.heldUnder_iff.mpr ⟨charge, List.mem_cons_self, rfl, rfl⟩
  have hrest := Charge.filter_cons_self (List.nodup_cons.mp h.accounts.apart).1
  rw [takeBack_eq hheld, Charge.origin_registered]
  exact ⟨rfl, hrest ▸ h.discharge session.spillPath_injective List.mem_cons_self
    (areIdle_notice (.notSent session.context charge.id error.message)) rfl rfl rfl rfl⟩

/-- Writing the line of the request that came last keeps it, or takes it back. -/
theorem isCharged_write (session : Session) {charge : Charge}
    (h : session.router.IsCharged session.spillPath frontEnd (charge :: charges))
    (line : String) :
    (session.write charge.id line).1.spillDirectory = session.spillDirectory ∧
      match (session.write charge.id line).2 with
      | .ok sent => sent.id = charge.id ∧
        (session.write charge.id line).1.router.IsCharged session.spillPath frontEnd
          (charge :: charges)
      | .error _ =>
        (session.write charge.id line).1.router.IsCharged session.spillPath frontEnd charges := by
  unfold write
  cases session.channel with
  | up => exact ⟨rfl, rfl, h⟩
  | broken => exact isCharged_takeBack session h (.unsent brokenPipe)
  | shut => exact isCharged_takeBack session h .closed

/-- A request is charged when sending has succeeded, and only then. -/
theorem isCharged_send (h : session.router.IsCharged session.spillPath frontEnd charges)
    (path : Namespace) (code : String) {job : Job} (hp : job.IsPassive)
    (hk : job.KeepsOff session.spillPath) :
    (session.send path code job).1.spillDirectory = session.spillDirectory ∧
      match (session.send path code job).2 with
      | .ok sent => (session.send path code job).1.router.IsCharged session.spillPath frontEnd
          (⟨sent.id, code, job, session.mustSpill code job⟩ :: charges)
      | .error _ =>
        (session.send path code job).1.router.IsCharged session.spillPath frontEnd charges := by
  rcases send_cases session path code job with ⟨error, hs⟩ | ⟨line, hs⟩
  · rw [hs]
    exact ⟨rfl, h⟩
  · have hentered : (session.entered (session.chargeFor code job)).router.IsCharged
        session.spillPath frontEnd (session.chargeFor code job :: charges) :=
      h.take session.spillPath_injective (RequestId.get?_fresh _ _) hp hk
    obtain ⟨hdirectory, hw⟩ :=
      isCharged_write (session.entered (session.chargeFor code job)) hentered line
    rw [hs]
    refine ⟨hdirectory, ?_⟩
    cases hr : ((session.entered (session.chargeFor code job)).write
        (session.chargeFor code job).id line).2 with
    | error error =>
      rw [hr] at hw
      exact hw
    | ok sent =>
      rw [hr] at hw
      obtain ⟨hid, hw⟩ := hw
      dsimp only
      rw [hid]
      exact hw

/-- All of a session that requests come from, and all that they leave traces in. -/
structure Footing where
  /-- The router, with its jobs, files and log. -/
  router : Router
  /-- The lines that were written. -/
  written : List Sent
  /-- The lines that are remembered. -/
  history : List Sent
  /-- The context. -/
  context : String
  /-- The settings. -/
  settings : Settings
  /-- The directory that code is spilled to. -/
  spillDirectory : String
  /-- The random numbers that ids are made of. -/
  draw : Nat → Nat
  /-- How many of them are used up. -/
  drawn : Nat

/-- The footing of a session. -/
def footing (session : Session) : Footing where
  router := session.router
  written := session.written
  history := session.history
  context := session.context
  settings := session.settings
  spillDirectory := session.spillDirectory
  draw := session.draw
  drawn := session.drawn

/-- What becomes of a session, deed by deed, with the requests that are
outstanding. A request is written down, with its code, when sending it has
succeeded. It is struck out when a response with its id is routed, and so are all
when all jobs are ended. -/
inductive Evolves (start : Session) : Session → List Charge → Prop
  /-- At the start nothing is outstanding. -/
  | begun : Evolves start start []
  /-- Code is sent. -/
  | sent {now after : Session} {charges : List Charge} {path : Namespace} {code : String}
    {job : Job} {sent : Sent} (hp : job.IsPassive) (hk : job.KeepsOff start.spillPath)
    (hs : now.send path code job = (after, .ok sent)) (h : Evolves start now charges) :
    Evolves start after (⟨sent.id, code, job, now.mustSpill code job⟩ :: charges)
  /-- Code is not sent. -/
  | unsent {now after : Session} {charges : List Charge} {path : Namespace} {code : String}
    {job : Job} {error : SessionError} (hp : job.IsPassive) (hk : job.KeepsOff start.spillPath)
    (hs : now.send path code job = (after, .error error)) (h : Evolves start now charges) :
    Evolves start after charges
  /-- A response is routed. -/
  | routed {now : Session} {charges : List Charge} (answer : Response)
    (h : Evolves start now charges) :
    Evolves start { now with router := (now.router.perform (.route answer)).1 }
      (charges.filter (·.id ≠ answer.requestId))
  /-- All jobs are ended. -/
  | ended {now : Session} {charges : List Charge} (policy : Policy)
    (h : Evolves start now charges) :
    Evolves start { now with router := (now.router.perform (.endAll policy)).1 } []
  /-- A line is written to the log. -/
  | noted {now : Session} {charges : List Charge} (notice : Notice)
    (h : Evolves start now charges) : Evolves start (now.note [.notice notice]) charges
  /-- Something happens that requests have nothing to do with. -/
  | kept {now after : Session} {charges : List Charge} (hs : after.footing = now.footing)
    (h : Evolves start now charges) : Evolves start after charges
  /-- Somebody else puts something elsewhere than where spilled code lies. -/
  | placed {now : Session} {charges : List Charge} (attachment : Attachment)
    (hpath : ∀ id, attachment.path ≠ start.spillPath id)
    (hentry : attachment.entry.isSpilled = false) (h : Evolves start now charges) :
    Evolves start
      { now with router := { now.router with files := now.router.files.lay attachment } } charges
  /-- Somebody else deletes a file that is not one of spilled code. -/
  | deleted {now : Session} {charges : List Charge} (path : String)
    (hpath : ∀ id, path ≠ start.spillPath id) (h : Evolves start now charges) :
    Evolves start (now.deleteFile path).1 charges

/-- Every deed keeps the accounts. -/
theorem Evolves.isCharged {start now : Session}
    (hr : start.router.IsCharged start.spillPath frontEnd [])
    (h : start.Evolves now charges) :
    now.spillDirectory = start.spillDirectory ∧
      now.router.IsCharged start.spillPath frontEnd charges := by
  induction h with
  | begun => exact ⟨rfl, hr⟩
  | @sent now after charges path code job sent hp hk hs _ ih =>
    obtain ⟨hdirectory, hcharged⟩ := ih
    rw [← spillPath_congr hdirectory] at hcharged hk ⊢
    have hsend := isCharged_send hcharged path code hp hk
    rw [hs] at hsend
    exact ⟨hsend.1.trans hdirectory, hsend.2⟩
  | @unsent now after charges path code job error hp hk hs _ ih =>
    obtain ⟨hdirectory, hcharged⟩ := ih
    rw [← spillPath_congr hdirectory] at hcharged hk ⊢
    have hsend := isCharged_send hcharged path code hp hk
    rw [hs] at hsend
    exact ⟨hsend.1.trans hdirectory, hsend.2⟩
  | routed answer _ ih => exact ⟨ih.1, ih.2.route start.spillPath_injective answer⟩
  | ended policy _ ih => exact ⟨ih.1, ih.2.endAll start.spillPath_injective policy⟩
  | noted notice _ ih => exact ⟨ih.1, ih.2.note (areIdle_notice notice)⟩
  | @kept now after charges hs _ ih =>
    have hrouter : after.router = now.router := congrArg Footing.router hs
    exact ⟨(congrArg Footing.spillDirectory hs).trans ih.1, hrouter ▸ ih.2⟩
  | placed attachment hpath hentry _ ih =>
    exact ⟨ih.1, ih.2.lay hpath hentry⟩
  | deleted path hpath _ ih => exact ⟨ih.1, ih.2.deleteFile hpath⟩

end ReplLink.Session
