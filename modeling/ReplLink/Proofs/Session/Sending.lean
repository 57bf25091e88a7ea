import ReplLink.Proofs.Routing.Resolution
import ReplLink.Proofs.Session.Moves
import ReplLink.Proofs.Text.RoundTrip

/-!
# Sending that fails

Sending code can fail at four points: the session is not connected, the namespace is refused,
the code cannot be spilled, or the line cannot be written. `Unsent` has a constructor for each.
At the first three nothing has been done yet. At the last one a request has been entered, and
all of that is undone: what is left of it is a busy time in the log that has ended, with a line
about the failure inside it.

A file for spilled code is a new one: `SpillsAnew` says that nothing lies at its path before.
This is so in every run in which nobody else touches the paths of spilled code.
-/

namespace ReplLink

open ReplLink.Text ReplLink.Routing

/-- A new file that is deleted again leaves no trace. -/
theorem Files.delete_lay {files : Files} {attachment : Attachment}
    (hnew : files.get? attachment.path = none) (hfile : attachment.entry.isFile = true) :
    (files.lay attachment).delete attachment.path = files := by
  have hthere : isFile (files.put attachment.path attachment.entry) attachment.path = true := by
    rw [isFile, Keyed.get?_put_self]
    exact hfile
  rw [lay_of_get?_none hnew, delete, if_pos hthere, Keyed.erase_put]
  exact Keyed.erase_of_get?_none hnew

/-- The files of spilled code are all left when another file is deleted. -/
theorem Files.spills_delete {files : Files} {path : String}
    (h : ∀ pair ∈ files.spills, pair.1 ≠ path) : (files.delete path).spills = files.spills := by
  rw [delete]
  split
  · rw [spills, Keyed.erase, List.filter_filter, spills]
    refine List.filter_congr fun pair hp => ?_
    cases hs : pair.2.isSpilled with
    | false => rfl
    | true =>
      have hne : pair.1 ≠ path := h pair (List.mem_filter.mpr ⟨hp, hs⟩)
      simpa using hne
  · rfl

namespace Session

variable {session : Session} {path : Namespace} {code : String} {job : Job}

/-- Code has to be spilled if no file is attached and if either it is asked for or the code
takes too many bytes. -/
theorem mustSpill_iff : session.mustSpill code job = true ↔ job.attachment = none ∧
    (job.viaFile = true ∨ session.settings.longestInline < code.utf8ByteSize) := by
  rw [mustSpill, Utf8.size_toList, Bool.and_eq_true, Option.isNone_iff_eq_none, Bool.or_eq_true,
    decide_eq_true_eq]

/-- The id of the next request. -/
def nextId (session : Session) : String :=
  RequestId.fresh (session.draw session.drawn) session.router.roster

/-- If the next request spills its code, it does so to a new file. -/
def SpillsAnew (session : Session) (code : String) (job : Job) : Prop :=
  session.mustSpill code job = true →
    session.router.files.get? (session.spillPath session.nextId) = none

/-- Where the only spilled code is that of outstanding requests, the next request spills its
code to a new file. -/
theorem spillsAnew_of_isCharged {frontEnd : FrontEnd} {charges : List Charge}
    (h : session.router.IsCharged session.spillPath frontEnd charges) (code : String)
    (job : Job) : session.SpillsAnew code job := by
  intro _
  refine Option.eq_none_iff_forall_ne_some.mpr fun entry hentry => ?_
  have hspilled := h.accounts.clear session.nextId entry hentry
  cases entry with
  | attached content => exact absurd hspilled (by simp [FileEntry.isSpilled])
  | directory => exact absurd hspilled (by simp [FileEntry.isSpilled])
  | spilled text =>
    -- The code would be that of an outstanding request with the id, which is a free one.
    obtain ⟨charge, hc, -, -, hpath⟩ := (h.accounts.spills _ text).mp hentry
    have hid : session.nextId = charge.id := session.spillPath_injective hpath
    have hheld := h.heldUnder_iff.mpr ⟨charge, hc, hid.symm, rfl⟩
    rw [Roster.heldUnder, nextId, RequestId.get?_fresh] at hheld
    exact absurd hheld (by simp)

/-- In every run of a session whose callers stay away from the paths of spilled code, the next
request spills its code to a new file. -/
theorem spillsAnew_run {context address : String} {settings : Settings} {frontEnd : FrontEnd}
    {spillDirectory : String} {draw : Nat → Nat} {start : Session} {moves : List Move}
    (hs : start = opened context address settings frontEnd spillDirectory draw)
    (hm : ∀ move ∈ moves, move.IsFair start) (code : String) (job : Job) :
    (start.run moves).SpillsAnew code job := by
  have hstart : start.router.IsCharged start.spillPath frontEnd [] :=
    hs ▸ isCharged_opened context address settings frontEnd spillDirectory draw _
  have hreaches : start.Reaches (start.run moves) := Reaches.run ⟨[], .begun⟩ hm
  obtain ⟨requests, hevolves⟩ := hreaches
  obtain ⟨hdirectory, hcharged⟩ := hevolves.isCharged hstart
  rw [← spillPath_congr hdirectory] at hcharged
  exact spillsAnew_of_isCharged hcharged code job

/-- What is written in a request for its code: the code itself, or what loads its file. -/
def wireCode (session : Session) (charge : Charge) : String :=
  if charge.spilled then loaderFor session.settings.fileLoader (session.spillPath charge.id)
  else charge.code

/-- In a connected session, a request with a valid namespace is entered and its line is
written, unless its code has to be spilled and cannot be. -/
theorem send_of_valid {tokens : List String} (hc : session.connected = true)
    (ht : path.tokens = .ok tokens)
    (hs : session.mustSpill code job = true → session.canSpill = true) :
    session.send path code job
      = (session.entered (session.chargeFor code job)).write session.nextId
          (Request.encode ⟨tokens, session.nextId,
            session.wireCode (session.chargeFor code job)⟩) := by
  rw [send, if_neg (by simp [hc]), ht]
  dsimp only
  unfold wireCode chargeFor
  cases hm : session.mustSpill code job with
  | true =>
    rw [if_pos rfl, if_neg (by simp [hs hm])]
    rfl
  | false => rfl

/-- If it has to be and cannot be, nothing happens. -/
theorem send_of_unspilled {tokens : List String} (hc : session.connected = true)
    (ht : path.tokens = .ok tokens) (hm : session.mustSpill code job = true)
    (hd : session.canSpill = false) :
    session.send path code job
      = (session, .error (.unspilled (noDirectory (session.spillPath session.nextId)))) := by
  rw [send, if_neg (by simp [hc]), ht]
  dsimp only
  rw [if_pos hm, if_pos (by simp [hd]), nextId]

/-- A request whose line could not be written has been taken back. -/
def unwritten (session : Session) (job : Job) (error : SessionError) : Session :=
  { session with
    drawn := session.drawn + 1
    router :=
      { session.router with
        files := filesWithout job session.router.files
        log := session.router.log ++ (session.router.frontEnd.start job.origin
          ++ [.notice (.notSent session.context session.nextId error.message)]
          ++ session.router.frontEnd.stop job.origin) } }

/-- Why sending fails, and what the session is then. -/
inductive Unsent (session : Session) (path : Namespace) (code : String) (job : Job) :
    SessionError → Session → Prop
  /-- The session is not connected. Its namespace is not looked at. -/
  | closed (hc : session.connected = false) : Unsent session path code job .closed session
  /-- The namespace is refused. -/
  | badToken (hc : session.connected = true) {refusal : BadToken}
    (ht : path.tokens = .error refusal) :
    Unsent session path code job (.badToken refusal) session
  /-- The code has to be spilled and cannot be. -/
  | unspilled (hc : session.connected = true) {tokens : List String}
    (ht : path.tokens = .ok tokens) (hs : session.mustSpill code job = true)
    (hd : session.canSpill = false) :
    Unsent session path code job
      (.unspilled (noDirectory (session.spillPath session.nextId))) session
  /-- The line cannot be written. -/
  | unwritten (hc : session.connected = true) {tokens : List String}
    (ht : path.tokens = .ok tokens) {error : SessionError}
    (he : session.channel = .broken ∧ error = .unsent brokenPipe ∨
      session.channel = .shut ∧ error = .closed) :
    Unsent session path code job error (session.unwritten job error)

/-- The file of a request that is taken back is gone, and with it all that was done to the
files. -/
theorem filesWithout_entered (hnew : session.SpillsAnew code job) :
    filesWithout ((session.chargeFor code job).registered session.spillPath)
        (session.entered (session.chargeFor code job)).router.files
      = filesWithout job session.router.files := by
  have hentered : (session.entered (session.chargeFor code job)).router.files
      = Router.filesFor session.spillPath (session.chargeFor code job) session.router.files := rfl
  rw [hentered, Router.filesFor]
  cases hs : session.mustSpill code job with
  | true =>
    have hspilled : (session.chargeFor code job).spilled = true := hs
    have hnone : job.attachment = none := (mustSpill_iff.mp hs).1
    rw [if_pos hspilled, Charge.filesWithout_of_spilled session.spillPath hspilled,
      Files.delete_lay (hnew hs) rfl, filesWithout, hnone]
  | false =>
    have hspilled : (session.chargeFor code job).spilled = false := hs
    rw [if_neg (by simp [hspilled]), Charge.registered, if_neg (by simp [hspilled])]
    rfl

/-- A request that has been entered is taken back without a trace but in the log. -/
theorem takeBack_entered (hnew : session.SpillsAnew code job) (error : SessionError) :
    (session.entered (session.chargeFor code job)).takeBack session.nextId error
      = session.unwritten job error := by
  have hheld := session.heldUnder_entered (session.chargeFor code job)
  have hfree : session.router.roster.get? (session.chargeFor code job).id = none :=
    RequestId.get?_fresh _ _
  change takeBack _ (session.chargeFor code job).id error = _
  rw [takeBack_eq hheld, filesWithout_entered hnew, erase_entered hfree, Charge.origin_registered]
  simp only [entered, Router.take, unwritten, List.append_assoc]
  rfl

/-- Sending that fails fails at one of the four points. -/
theorem unsent_of_send (hnew : session.SpillsAnew code job) {failed : Session}
    {error : SessionError} (h : session.send path code job = (failed, .error error)) :
    Unsent session path code job error failed := by
  cases hc : session.connected with
  | false =>
    rw [send, if_pos (by simp [hc])] at h
    obtain ⟨rfl, he⟩ := Prod.mk.inj h
    obtain rfl := Except.error.inj he
    exact .closed hc
  | true =>
    cases ht : path.tokens with
    | error refusal =>
      rw [send, if_neg (by simp [hc]), ht] at h
      obtain ⟨rfl, he⟩ := Prod.mk.inj h
      obtain rfl := Except.error.inj he
      exact .badToken hc ht
    | ok tokens =>
      by_cases hs : session.mustSpill code job = true → session.canSpill = true
      · rw [send_of_valid hc ht hs, write] at h
        have hchannel : (session.entered (session.chargeFor code job)).channel
            = session.channel := rfl
        rw [hchannel] at h
        cases hw : session.channel with
        | up =>
          rw [hw] at h
          exact absurd (Prod.mk.inj h).2 (by simp)
        | broken =>
          rw [hw] at h
          obtain ⟨rfl, he⟩ := Prod.mk.inj h
          obtain rfl := Except.error.inj he
          rw [takeBack_entered hnew]
          exact .unwritten hc ht (.inl ⟨hw, rfl⟩)
        | shut =>
          rw [hw] at h
          obtain ⟨rfl, he⟩ := Prod.mk.inj h
          obtain rfl := Except.error.inj he
          rw [takeBack_entered hnew]
          exact .unwritten hc ht (.inr ⟨hw, rfl⟩)
      · obtain ⟨hm, hd⟩ := Classical.not_imp.mp hs
        rw [Bool.not_eq_true] at hd
        rw [send_of_unspilled hc ht hm hd] at h
        obtain ⟨rfl, he⟩ := Prod.mk.inj h
        obtain rfl := Except.error.inj he
        exact .unspilled hc ht hm hd

/-- Who waits for a request has no part in it. -/
theorem Unsent.of_waiter {waiter : Option Nat} {error : SessionError} {failed : Session}
    (h : Unsent session path code { job with waiter } error failed) :
    Unsent session path code job error failed := by
  cases h with
  | closed hc => exact .closed hc
  | badToken hc ht => exact .badToken hc ht
  | unspilled hc ht hs hd => exact .unspilled hc ht hs hd
  | unwritten hc ht he => exact .unwritten hc ht he

theorem unsent_of_call (hnew : session.SpillsAnew code job) {failed : Session}
    {error : SessionError} (h : session.call path code job = (failed, .error error)) :
    Unsent session path code job error failed := by
  rw [call] at h
  split at h
  · exact absurd (Prod.mk.inj h).2 (by simp)
  · next hs =>
    obtain ⟨rfl, he⟩ := Prod.mk.inj h
    obtain rfl := Except.error.inj he
    have hwaiting : session.SpillsAnew code { job with waiter := some session.nextTicket } := hnew
    exact (unsent_of_send hwaiting hs).of_waiter

/-- Sending has failed and has left no trace. -/
structure LeavesNoTrace (before : Session) (path : Namespace) (code : String) (job : Job)
    (error : SessionError) (after : Session) : Prop where
  /-- The same requests are outstanding. -/
  outstanding : after.router.roster = before.router.roster
  /-- The same lines are remembered. -/
  history : after.history = before.history
  /-- The same bytes wait for the rest of their response. -/
  inbox : after.inbox = before.inbox
  /-- The same names are known. -/
  names : after.names = before.names
  /-- The same code is spilled to the same files, unless one of these is the file that the
  caller has attached. -/
  spills : (∀ attachment, job.attachment = some attachment →
      ∀ pair ∈ before.router.files.spills, pair.1 ≠ attachment.path) →
    after.router.files.spills = before.router.files.spills
  /-- All that lies elsewhere than at the path of that file is still there, and nothing else. -/
  others : ∀ place, (∀ attachment, job.attachment = some attachment → place ≠ attachment.path) →
    after.router.files.get? place = before.router.files.get? place
  /-- No line was written. -/
  written : after.written = before.written
  /-- Nobody who waits was told anything. -/
  words : after.router.words = before.router.words
  /-- A session that is not connected says so before it looks at anything else. -/
  closed : before.connected = false → error = .closed
  /-- When it says so, and when the namespace is refused, nothing at all has happened. -/
  untouched : (before.connected = false ∧ error = .closed ∨
      ∃ refusal, error = .badToken refusal) → after = before
  /-- When it is the line that could not be written, a busy time has begun and ended, and a
  line of the log in between tells of the failure. No callback has run. The file of the request
  is gone, be it attached or spilled. -/
  undone : before.connected = true → (∃ tokens, path.tokens = .ok tokens) →
    (before.mustSpill code job = true → before.canSpill = true) →
    after.router.log = before.router.log ++ (before.router.frontEnd.start job.origin
        ++ [.notice (.notSent before.context before.nextId error.message)]
        ++ before.router.frontEnd.stop job.origin) ∧
      (∀ attachment, job.attachment = some attachment →
        after.router.files.isFile attachment.path = false) ∧
      (before.mustSpill code job = true →
        after.router.files.isFile (before.spillPath before.nextId) = false)

/-- If nothing has happened at all, there is no trace. -/
theorem leavesNoTrace_of_untouched {error : SessionError}
    (hclosed : session.connected = false → error = .closed)
    (hearly : session.connected = true → (∃ tokens, path.tokens = .ok tokens) →
      session.mustSpill code job = true ∧ session.canSpill = false) :
    session.LeavesNoTrace path code job error session where
  outstanding := rfl
  history := rfl
  inbox := rfl
  names := rfl
  spills := fun _ => rfl
  others := fun _ _ => rfl
  written := rfl
  words := rfl
  closed := hclosed
  untouched := fun _ => rfl
  undone := fun hc ht hs => by
    obtain ⟨hm, hd⟩ := hearly hc ht
    exact absurd (hs hm) (by simp [hd])

/-- Neither is there if the line could not be written. -/
theorem leavesNoTrace_unwritten (hnew : session.SpillsAnew code job)
    (hc : session.connected = true) {error : SessionError}
    (he : ∀ refusal, error ≠ .badToken refusal) :
    session.LeavesNoTrace path code job error (session.unwritten job error) where
  outstanding := rfl
  history := rfl
  inbox := rfl
  names := rfl
  spills := fun haway => by
    change (filesWithout job session.router.files).spills = session.router.files.spills
    rw [filesWithout]
    split
    · next attachment ha => exact Files.spills_delete (haway attachment ha)
    · rfl
  others := fun place haway => by
    change (filesWithout job session.router.files).get? place = session.router.files.get? place
    rw [filesWithout]
    split
    · next attachment ha => exact Files.get?_delete_of_ne _ (haway attachment ha)
    · rfl
  written := rfl
  words := rfl
  closed := fun hclosed => absurd hc (by simp [hclosed])
  untouched := by
    rintro (⟨hclosed, -⟩ | ⟨refusal, hr⟩)
    · exact absurd hc (by simp [hclosed])
    · exact absurd hr (he refusal)
  undone := fun _ _ _ => by
    refine ⟨rfl, fun attachment ha => ?_, fun hm => ?_⟩
    · exact Router.isFile_filesWithout _ ha
    · -- Nothing lay at the path of the new file, and its deletion has brought that back.
      have hnone : job.attachment = none := (mustSpill_iff.mp hm).1
      change (filesWithout job session.router.files).isFile _ = false
      rw [filesWithout, hnone, Files.isFile, hnew hm]
      rfl

/-- At whichever point it fails, sending leaves no trace. -/
theorem Unsent.leavesNoTrace (hnew : session.SpillsAnew code job) {error : SessionError}
    {failed : Session} (h : Unsent session path code job error failed) :
    session.LeavesNoTrace path code job error failed := by
  cases h with
  | closed hc =>
    exact leavesNoTrace_of_untouched (fun _ => rfl) fun hup => absurd hup (by simp [hc])
  | badToken hc ht =>
    refine leavesNoTrace_of_untouched (fun hclosed => absurd hc (by simp [hclosed])) ?_
    rintro - ⟨tokens, hok⟩
    exact absurd (ht.symm.trans hok) (by simp)
  | unspilled hc ht hs hd =>
    exact leavesNoTrace_of_untouched (fun hclosed => absurd hc (by simp [hclosed]))
      fun _ _ => ⟨hs, hd⟩
  | unwritten hc ht he =>
    refine leavesNoTrace_unwritten hnew hc fun refusal => ?_
    rcases he with ⟨-, rfl⟩ | ⟨-, rfl⟩ <;> simp

/-- Sending code, a call and the evaluation of the session's own code leave no trace when they
fail. -/
theorem leavesNoTrace_of_error (session : Session) (path : Namespace) (code : String) (job : Job)
    (hnew : session.SpillsAnew code job) {error : SessionError} {failed : Session}
    (h : session.send path code job = (failed, .error error) ∨
      session.call path code job = (failed, .error error) ∨
      job = session.evaluation ∧ session.eval path code = (failed, .error error)) :
    session.LeavesNoTrace path code job error failed := by
  rcases h with hs | hs | ⟨rfl, hs⟩
  · exact (unsent_of_send hnew hs).leavesNoTrace hnew
  · exact (unsent_of_call hnew hs).leavesNoTrace hnew
  · exact (unsent_of_call hnew hs).leavesNoTrace hnew

/-- A session whose interpreter reads no more, before it has noticed. -/
def severedStart : Session :=
  (opened "notebook" "127.0.0.1:10011" default .editor "/tmp" fun _ => 7).breakWrites

/-- A cell whose code is to travel in a file. -/
def bulkyCell : Job := { JobOf.plain "cell" "notebook" "scratch" with viaFile := true }

/-- Its code is spilled, and the file is gone again when the line cannot be written. -/
theorem leavesNoTrace_bulkyCell :
    let failed := (severedStart.send .root "plot(1)" bulkyCell).1
    severedStart.mustSpill "plot(1)" bulkyCell = true ∧
      severedStart.SpillsAnew "plot(1)" bulkyCell ∧
      severedStart.send .root "plot(1)" bulkyCell = (failed, .error (.unsent brokenPipe)) ∧
      severedStart.LeavesNoTrace .root "plot(1)" bulkyCell (.unsent brokenPipe) failed ∧
      failed.router.log = [.notice (.connected "notebook" "127.0.0.1:10011"),
        .busyStart "notebook",
        .notice (.notSent "notebook" severedStart.nextId "Send failed: Broken pipe (os error 32)"),
        .busyStop "notebook"] := by
  intro failed
  have hnew : severedStart.SpillsAnew "plot(1)" bulkyCell := fun _ => rfl
  have htokens : Namespace.root.tokens = .ok ["Main"] := rfl
  have hsend : severedStart.send .root "plot(1)" bulkyCell
      = (failed, .error (.unsent brokenPipe)) := by
    refine Prod.ext rfl ?_
    rw [send_of_valid rfl htokens fun _ => rfl]
    rfl
  have htrace := leavesNoTrace_of_error severedStart .root "plot(1)" bulkyCell hnew (.inl hsend)
  exact ⟨rfl, hnew, hsend, htrace, (htrace.undone rfl ⟨_, htokens⟩ fun _ => rfl).1⟩

end Session

end ReplLink
