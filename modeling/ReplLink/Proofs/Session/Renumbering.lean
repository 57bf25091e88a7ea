import ReplLink.Proofs.Routing.Renumbering
import ReplLink.Proofs.Session.Stages
import ReplLink.Proofs.Session.Moves

/-!
# A session with one caller less

The callers of a session are numbered in the order in which they come. A session with
one caller less has the numbers behind that one moved down. Whatever is done to both
sessions, they stay so: `Parallel` relates them, and there is one lemma for each thing
that a session does.
-/

namespace ReplLink

open ReplLink.Routing

/-- A new id depends on the ids that are taken, not on what is filed under them. -/
theorem Routing.RequestId.fresh_map {f : Holding → Holding} (drawn : Nat) (roster : Roster) :
    RequestId.fresh drawn (roster.map f) = RequestId.fresh drawn roster := by
  unfold RequestId.fresh
  rw [Keyed.size_map]
  simp only [Keyed.contains_map]

section Definitions

/-- The number of a caller if there is one caller less, the one with the number that is left
out. -/
def shift (gap : Option Nat) (number : Nat) : Nat :=
  match gap with
  | none => number
  | some left => if left < number then number - 1 else number

/-- The same, with no number for the caller who is left out. -/
def skip (gap : Option Nat) (number : Nat) : Option Nat :=
  if gap = some number then none else some (shift gap number)

/-- The number, if it is below a bound. -/
def below (bound number : Nat) : Option Nat := if number < bound then some number else none

/-- The caller with this number came before the next one and is not left out. -/
structure Fits (gap : Option Nat) (next number : Nat) : Prop where
  /-- The number was given out. -/
  given : number < next
  /-- The caller is not left out. -/
  present : gap ≠ some number

/-- The number of the caller who makes a claim. -/
def Claim.ticket : Claim → Nat
  | .names ticket => ticket
  | .close ticket _ => ticket

/-- The claim with the number that its caller has without the one who is left out. -/
def Claim.renumber (gap : Option Nat) : Claim → Claim
  | .names ticket => .names (shift gap ticket)
  | .close ticket wasOpen => .close (shift gap ticket) wasOpen

/-- The query with the numbers that it has without the caller who is left out. -/
def Query.renumber (gap : Option Nat) (query : Query) : Query :=
  ⟨shift gap query.ticket, shift gap query.waiter⟩

/-- The queue with the numbers that it has without the caller who is left out. -/
def Queue.renumber (gap : Option Nat) (queue : Queue) : Queue :=
  ⟨queue.holder.map (Query.renumber gap), queue.line.map (Claim.renumber gap)⟩

/-- All callers of a queue came before the next one, and none of them is left out. -/
structure Queue.Fits (gap : Option Nat) (next : Nat) (queue : Queue) : Prop where
  /-- The numbers of the query in flight were given out. -/
  holder : ∀ query, queue.holder = some query →
    ReplLink.Fits gap next query.ticket ∧ ReplLink.Fits gap next query.waiter
  /-- So were those in the line. -/
  line : ∀ claim ∈ queue.line, ReplLink.Fits gap next claim.ticket

namespace Session

/-- The session without one of its callers. -/
def renumber (gap : Option Nat) (session : Session) : Session :=
  { session with
    router := session.router.renumber (skip gap)
    baseQueue := session.baseQueue.renumber gap
    coreQueue := session.coreQueue.renumber gap
    settled := renumberAll (skip gap) session.settled
    nextTicket := shift gap session.nextTicket }

/-- Whatever is numbered in a session has got a number that was given out, and nobody stands
in a line who is left out. -/
structure Numbered (gap : Option Nat) (session : Session) : Prop where
  /-- Callbacks add nobody who waits. -/
  adds : session.router.AddsNoWaiter
  /-- Callers who wait have got numbers. -/
  roster : session.router.roster.map (Holding.renumber (below session.nextTicket))
    = session.router.roster
  /-- So have those who were told something. -/
  words : renumberAll (below session.nextTicket) session.router.words = session.router.words
  /-- So have those who want names or close the session. -/
  queues : ∀ list, (session.queueOf list).Fits gap session.nextTicket
  /-- So have those who have got what they wanted. -/
  settled : ∀ pair ∈ session.settled, Fits gap session.nextTicket pair.1
  /-- Who is left out came before. -/
  passed : ∀ left, gap = some left → left < session.nextTicket

/-- The jobs that a move brings, and those that their callbacks register, have nobody who
waits. Who calls gets a number from the session. -/
def Move.AddsNoWaiter : Move → Prop
  | .send _ _ job => job.waiter = none ∧ job.AddsNoWaiter
  | .call _ _ job => job.AddsNoWaiter
  | _ => True

/-- What a move yields at once, but for the number of its caller. -/
inductive Yield where
  /-- The line that was sent, or why none was sent. -/
  | sent (result : Except SessionError Sent)
  /-- How many responses reached their jobs. -/
  | count (responses : Nat)
  /-- Whether there was a file. -/
  | truth (wasThere : Bool)
  /-- Nothing. -/
  | nothing

/-- What a move yields. -/
def yields (session : Session) : Move → Yield
  | .send path code job => .sent (session.send path code job).2
  | .call path code job => .sent ((session.call path code job).2.map (·.1))
  | .eval path code => .sent ((session.eval path code).2.map (·.1))
  | .receive chunk => .count (session.receive chunk).2
  | .feed chunk => .count (session.feed chunk).2
  | .deleteFile path => .truth (session.deleteFile path).2
  | _ => .nothing

/-- One session has come from a start, and the other one is the same with one caller less. -/
structure Parallel (gap : Option Nat) (start now other : Session) : Prop where
  /-- The numbers were given out. -/
  numbered : now.Numbered gap
  /-- The other session has one caller less. -/
  same : other = now.renumber gap
  /-- Deeds lead to the session. -/
  undergone : ∀ id waiter, ∃ stages, start.Undergoes id waiter now stages

end Session

end Definitions

section Numbers

variable {gap : Option Nat} {next number : Nat}

/-- Numbers above the one that is left out go down by one. -/
theorem shift_some (left number : Nat) :
    shift (some left) number = if left < number then number - 1 else number := rfl

/-- Any other caller than the one who is left out keeps a number. -/
theorem skip_of_ne (h : gap ≠ some number) : skip gap number = some (shift gap number) := if_neg h

/-- Two callers do not get the same number. -/
theorem skip_eq_iff (h : gap ≠ some number) (first : Nat) :
    skip gap first = some (shift gap number) ↔ first = number := by
  cases gap with
  | none => simp [skip, shift]
  | some left =>
    have hl : left ≠ number := fun he => h (congrArg some he)
    rw [skip, shift_some, shift_some]
    by_cases hf : left = first
    · rw [if_pos (congrArg some hf), ← hf]
      simpa using hl
    · rw [if_neg (by simpa using hf), Option.some.injEq]
      split <;> split <;> omega

/-- The next numbers stay apart. -/
theorem shift_succ (h : ∀ left, gap = some left → left < next) :
    shift gap (next + 1) = shift gap next + 1 := by
  cases gap with
  | none => rfl
  | some left =>
    have hl := h left rfl
    rw [shift_some, shift_some, if_pos hl, if_pos (Nat.lt_succ_of_lt hl)]
    omega

/-- Numbers below the one that is left out stay as they are. -/
theorem bind_below_skip (bound number : Nat) :
    (below bound number).bind (skip (some bound)) = below bound number := by
  unfold below
  split
  · next h =>
    rw [Option.bind_some, skip_of_ne (by simp; omega), shift_some, if_neg (by omega)]
  · rfl

/-- Numbers below a bound are below a higher one. -/
theorem bind_below_below {bound higher : Nat} (h : bound ≤ higher) (number : Nat) :
    (below bound number).bind (below higher) = below bound number := by
  unfold below
  split
  · rw [Option.bind_some, if_pos (by omega)]
  · rfl

/-- A number that was given out stays given out. -/
theorem Fits.mono {higher : Nat} (h : Fits gap next number) (hn : next ≤ higher) :
    Fits gap higher number :=
  ⟨Nat.lt_of_lt_of_le h.given hn, h.present⟩

/-- So do the numbers in a queue. -/
theorem Queue.Fits.mono {higher : Nat} {queue : Queue} (h : queue.Fits gap next)
    (hn : next ≤ higher) : queue.Fits gap higher where
  holder query hq := ⟨(h.holder query hq).1.mono hn, (h.holder query hq).2.mono hn⟩
  line claim hc := (h.line claim hc).mono hn

/-- Numbers that were given out before stay as they are. -/
theorem shift_of_lt {left : Nat} (h : number < left) : shift (some left) number = number := by
  rw [shift_some, if_neg (Nat.lt_asymm h)]

/-- Who came before a caller stays when that one is left out. -/
theorem Fits.leaving {left : Nat} (h : Fits none left number) :
    Fits (some left) (left + 1) number where
  given := Nat.lt_succ_of_lt h.given
  present he := Nat.ne_of_gt h.given (Option.some.inj he)

/-- Who was in a queue before a caller came stays there when that one is left out. -/
theorem Queue.Fits.leaving {left : Nat} {queue : Queue} (h : queue.Fits none left) :
    queue.Fits (some left) (left + 1) where
  holder query hq := ⟨(h.holder query hq).1.leaving, (h.holder query hq).2.leaving⟩
  line claim hm := (h.line claim hm).leaving

/-- The next number fits as soon as it is given out. -/
theorem fits_next (h : ∀ left, gap = some left → left < next) : Fits gap (next + 1) next where
  given := Nat.lt_succ_self next
  present hg := Nat.lt_irrefl next (h next hg)

end Numbers

namespace Session

open ReplLink.Stream ReplLink.Text

variable (gap : Option Nat)

/-- Taking a request back does not depend on the numbers of callers. -/
theorem takeBack_renumber (session : Session) (id : String) (error : SessionError) :
    (session.renumber gap).takeBack id error = (session.takeBack id error).renumber gap := by
  have hget : (session.router.roster.map (Holding.renumber (skip gap))).get? id
      = (session.router.roster.get? id).map (Holding.renumber (skip gap)) := Keyed.get?_map _ _ _
  unfold takeBack Roster.takeBack
  dsimp only [Session.note, Router.note, renumber, Router.renumber]
  rw [hget]
  cases session.router.roster.get? id with
  | none => rfl
  | some holding =>
    cases holding with
    | out => rfl
    | held job =>
      dsimp only [Option.map_some, Holding.renumber]
      rw [Keyed.erase_map]
      let left : Router :=
        { session.router.note [.notice (.notSent session.context id error.message)] with
          roster := session.router.roster.erase id }
      have hreleased := Router.release_renumber (skip gap) left job
      exact congrArg (fun router => ({ session.renumber gap with router } : Session)) hreleased

/-- Nor does writing a line. -/
theorem write_renumber (session : Session) (id line : String) :
    (session.renumber gap).write id line
      = ((session.write id line).1.renumber gap, (session.write id line).2) := by
  have hchannel : (session.renumber gap).channel = session.channel := rfl
  unfold write
  rw [hchannel]
  cases session.channel with
  | up => rfl
  | broken => exact congrArg (·, _) (takeBack_renumber gap session id _)
  | shut => exact congrArg (·, _) (takeBack_renumber gap session id _)

/-- Nor does registering a job and writing its line. -/
theorem enter_renumber (session : Session) (id : String) (tokens : List String) (code : String)
    (job : Job) :
    (session.renumber gap).enter id tokens code (job.renumber (skip gap))
      = ((session.enter id tokens code job).1.renumber gap,
          (session.enter id tokens code job).2) := by
  have hroster : Keyed.put (session.router.roster.map (Holding.renumber (skip gap))) id
        (.held (job.renumber (skip gap)))
      = (session.router.roster.put id (.held job)).map (Holding.renumber (skip gap)) :=
    Keyed.put_map (Holding.renumber (skip gap)) session.router.roster id (.held job)
  unfold enter
  rw [← write_renumber]
  dsimp only [renumber, Router.renumber, Router.note]
  rw [hroster]
  rfl

/-- Code is sent with one caller less as with all of them. -/
theorem send_renumber (session : Session) (path : Namespace) (code : String) (job : Job) :
    (session.renumber gap).send path code (job.renumber (skip gap))
      = ((session.send path code job).1.renumber gap, (session.send path code job).2) := by
  have hconnected : (session.renumber gap).connected = session.connected := rfl
  have hfresh : RequestId.fresh ((session.renumber gap).draw (session.renumber gap).drawn)
        (session.renumber gap).router.roster
      = RequestId.fresh (session.draw session.drawn) session.router.roster :=
    RequestId.fresh_map _ _
  have hspill : (session.renumber gap).mustSpill code (job.renumber (skip gap))
      = session.mustSpill code job := rfl
  unfold send
  rw [hconnected]
  split
  · rfl
  · cases path.tokens with
    | error refusal => rfl
    | ok tokens =>
      dsimp only
      rw [hfresh, hspill]
      split
      · have hcan : (session.renumber gap).canSpill = session.canSpill := rfl
        rw [hcan]
        split
        · rfl
        · let id := RequestId.fresh (session.draw session.drawn) session.router.roster
          let spilled : Job := { job with attached := [⟨session.spillPath id, .spilled code⟩] }
          exact enter_renumber gap { session with router := session.router.layFiles spilled } id
            tokens _ spilled
      · exact enter_renumber gap session _ tokens code job

/-- So is code whose caller waits. The caller has the number that comes next. -/
theorem call_renumber {gap : Option Nat} {session : Session}
    (h : ∀ left, gap = some left → left < session.nextTicket) (path : Namespace) (code : String)
    (job : Job) :
    (session.renumber gap).call path code job
      = ((session.call path code job).1.renumber gap,
          (session.call path code job).2.map fun sent => (sent.1, shift gap sent.2)) := by
  have hpresent : gap ≠ some session.nextTicket := (fits_next h).present
  have hjob : { job with waiter := some (session.renumber gap).nextTicket }
      = JobOf.renumber (skip gap) { job with waiter := some session.nextTicket } := by
    rw [JobOf.renumber, Option.bind_some, skip_of_ne hpresent]
    rfl
  unfold call
  dsimp only
  rw [hjob, send_renumber]
  cases hs : session.send path code { job with waiter := some session.nextTicket } with
  | mk after result =>
    cases result with
    | error error => rfl
    | ok sent =>
      have hnext : shift gap session.nextTicket + 1 = shift gap (session.nextTicket + 1) :=
        (shift_succ h).symm
      exact congrArg
        (fun next => (({ after.renumber gap with nextTicket := next } : Session), Except.ok _))
        hnext

section Numbered

variable {gap} {session after : Session}

/-- Only callers are numbered. -/
theorem Numbered.congr (h : session.Numbered gap) (hs : after.callers = session.callers) :
    after.Numbered gap := by
  have hroster : after.router.roster = session.router.roster := congrArg Callers.roster hs
  have hnext : after.nextTicket = session.nextTicket := congrArg Callers.next hs
  have hwords : after.router.words = session.router.words := congrArg Callers.words hs
  have hbase : after.baseQueue = session.baseQueue := congrArg Callers.base hs
  have hcore : after.coreQueue = session.coreQueue := congrArg Callers.core hs
  have hsettled : after.settled = session.settled := congrArg Callers.settled hs
  refine
    { adds := ⟨hroster ▸ h.adds.roster, hroster ▸ h.adds.rest⟩
      roster := ?_
      words := ?_
      queues := fun list => ?_
      settled := ?_
      passed := ?_ }
  · rw [hroster, hnext, h.roster]
  · rw [hwords, hnext, h.words]
  · rw [hnext]
    cases list with
    | base =>
      rw [queueOf, hbase]
      exact h.queues .base
    | core =>
      rw [queueOf, hcore]
      exact h.queues .core
  · rw [hsettled, hnext]
    exact h.settled
  · rw [hnext]
    exact h.passed

/-- The router has the numbers that were given out. -/
theorem Numbered.router (h : session.Numbered gap) :
    session.router.renumber (below session.nextTicket) = session.router := by
  rw [Router.renumber, h.roster, h.words]

/-- Carrying out a command gives out no numbers. -/
theorem Numbered.perform (h : session.Numbered gap) {command : Command}
    (hc : command.AddsNoWaiter) :
    Numbered gap { session with router := (session.router.perform command).1 } := by
  have hsame := Router.perform_renumber (below session.nextTicket) h.adds hc
  rw [h.router] at hsame
  have hrouter := congrArg Prod.fst hsame
  exact
    { adds := h.adds.perform hc
      roster := (congrArg Router.roster hrouter).symm
      words := (congrArg Router.words hrouter).symm
      queues := h.queues
      settled := h.settled
      passed := h.passed }

/-- More numbers may be given out. -/
theorem Numbered.advance (h : session.Numbered gap) {next : Nat} (hn : session.nextTicket ≤ next) :
    Numbered gap { session with nextTicket := next } where
  adds := h.adds
  roster := by
    have hr := Roster.renumber_renumber (below session.nextTicket) (below next)
      session.router.roster
    simp only [bind_below_below hn] at hr
    rwa [h.roster] at hr
  words := by
    have hw := renumberAll_renumberAll (below session.nextTicket) (below next)
      session.router.words
    simp only [bind_below_below hn] at hw
    rwa [h.words] at hw
  queues list := by
    cases list with
    | base => exact (h.queues .base).mono hn
    | core => exact (h.queues .core).mono hn
  settled pair hp := (h.settled pair hp).mono hn
  passed left hl := Nat.lt_of_lt_of_le (h.passed left hl) hn

/-- A job is registered whose caller has got a number. -/
theorem Numbered.register (h : session.Numbered gap) {id : String}
    (hid : session.router.roster.get? id = none) {job : Job} (hj : job.AddsNoWaiter)
    (hw : job.renumber (below session.nextTicket) = job)
    (hs : after.callers
      = { session.callers with roster := session.router.roster.put id (.held job) }) :
    after.Numbered gap := by
  have hput : Keyed.map (Holding.renumber (below session.nextTicket))
        (session.router.roster.put id (.held job))
      = session.router.roster.put id (.held job) := by
    rw [← Keyed.put_map, h.roster, Holding.renumber, hw]
  let registered : Session :=
    { session with
      router := { session.router with roster := session.router.roster.put id (.held job) } }
  have hnumbered : registered.Numbered gap :=
    { adds := by
        refine ⟨h.adds.roster.put_held hj, ?_⟩
        have hout := Roster.outIds_enter hid job
        rw [h.adds.rest] at hout
        exact hout.eq_nil
      roster := hput
      words := h.words
      queues := h.queues
      settled := h.settled
      passed := h.passed }
  exact hnumbered.congr hs

end Numbered

section Parallel

variable {gap} {start now other : Session}

/-- What callers who wait have nothing to do with is done to both sessions. -/
theorem Parallel.keep (h : Parallel gap start now other) {after beside : Session}
    (hs : after.callers = now.callers) (hb : beside = after.renumber gap) :
    Parallel gap start after beside where
  numbered := h.numbered.congr hs
  same := hb
  undergone id waiter := by
    obtain ⟨stages, hu⟩ := h.undergone id waiter
    exact ⟨stages, hu.kept (congrArg Callers.roster hs) (congrArg Callers.words hs)
      (Nat.le_of_eq (congrArg Callers.next hs).symm)⟩

/-- What is noted in both sessions keeps them parallel. -/
theorem Parallel.note (h : Parallel gap start now other) (events : List Event) :
    Parallel gap start (now.note events) (other.note events) :=
  h.keep rfl (by rw [h.same]; rfl)

/-- Both routers carry out a command and give the same reply. -/
theorem Parallel.perform (h : Parallel gap start now other) {command : Command}
    (hc : command.AddsNoWaiter) :
    Parallel gap start { now with router := (now.router.perform command).1 }
        { other with router := (other.router.perform command).1 } ∧
      (other.router.perform command).2 = (now.router.perform command).2 := by
  have hsame : other.router.perform command
      = ((now.router.perform command).1.renumber (skip gap), (now.router.perform command).2) := by
    rw [h.same]
    exact Router.perform_renumber (skip gap) h.numbered.adds hc
  refine ⟨⟨h.numbered.perform hc, ?_, fun id waiter => ?_⟩, by rw [hsame]⟩
  · rw [hsame, h.same]
    rfl
  · obtain ⟨stages, hu⟩ := h.undergone id waiter
    obtain ⟨more, ht⟩ := now.router.exists_stages command id waiter
    exact ⟨_, hu.carriedOut hc ht⟩

/-- Code is sent in both sessions, with the same result. -/
theorem Parallel.send (h : Parallel gap start now other) (path : Namespace) (code : String)
    {job : Job} (hj : job.AddsNoWaiter) (hw : job.waiter = none) :
    Parallel gap start (now.send path code job).1 (other.send path code job).1 ∧
      (other.send path code job).2 = (now.send path code job).2 := by
  have hsame := send_renumber gap now path code job
  rw [JobOf.renumber_of_waiter _ hw, ← h.same] at hsame
  refine ⟨⟨?_, congrArg Prod.fst hsame, fun id waiter => ?_⟩, by rw [hsame]⟩
  · have hr := registers_send now path code job
    rcases hr.roster with ⟨sent, registered, -, hfree, hs, hf, hwaiter, hroster⟩ | ⟨-, hroster⟩
    · have hnone : registered.waiter = none := hwaiter.trans hw
      exact h.numbered.register hfree (hj.congr hs hf) (JobOf.renumber_of_waiter _ hnone)
        (hroster ▸ hr.callers)
    · have hcallers := hr.callers
      rw [hroster] at hcallers
      exact h.numbered.congr hcallers
  · obtain ⟨stages, hu⟩ := h.undergone id waiter
    exact ⟨stages, hu.sent path code hj fun other ho => by rw [hw] at ho; cases ho⟩

/-- A caller who waits gets the next number, if its code is sent. -/
theorem Numbered.call (h : now.Numbered gap) (path : Namespace) (code : String) {job : Job}
    (hj : job.AddsNoWaiter) : (now.call path code job).1.Numbered gap := by
  have hr := registers_send now path code { job with waiter := some now.nextTicket }
  unfold Session.call
  dsimp only
  cases hs : now.send path code { job with waiter := some now.nextTicket } with
  | mk after result =>
    rw [hs] at hr
    rcases hr.roster with ⟨sent, registered, rfl, hfree, hs', hf, hwaiter, hroster⟩ |
      ⟨⟨error, rfl⟩, hroster⟩
    · have hbelow : below (now.nextTicket + 1) now.nextTicket = some now.nextTicket :=
        if_pos (Nat.lt_succ_self _)
      have hown : registered.renumber (below (now.nextTicket + 1)) = registered := by
        have hnumber : registered.waiter = some now.nextTicket := hwaiter
        rw [JobOf.renumber, hnumber, Option.bind_some, hbelow, ← hnumber]
      have hcallers : ({ after with nextTicket := now.nextTicket + 1 } : Session).callers
          = { ({ now with nextTicket := now.nextTicket + 1 } : Session).callers with
              roster := now.router.roster.put sent.id (.held registered) } := by
        rw [← hroster]
        exact congrArg (fun callers : Callers => { callers with next := now.nextTicket + 1 })
          hr.callers
      exact (h.advance (Nat.le_succ _)).register hfree (hj.congr hs' hf) hown hcallers
    · have hcallers := hr.callers
      rw [hroster] at hcallers
      exact h.congr hcallers

/-- A call adds no stage to the job of another caller. -/
theorem Undergoes.call {id : String} {waiter : Nat} {stages : List JobStage}
    (h : start.Undergoes id waiter now stages) (path : Namespace) (code : String) {job : Job}
    (hj : job.AddsNoWaiter) : start.Undergoes id waiter (now.call path code job).1 stages := by
  have hsent := h.sent path code (hj.congr rfl rfl : JobOf.AddsNoWaiter
    { job with waiter := some now.nextTicket }) fun other ho => (Option.some.inj ho).symm
  have hr := registers_send now path code { job with waiter := some now.nextTicket }
  unfold Session.call
  dsimp only
  split
  · next after sent hs =>
    rw [hs] at hsent hr
    have hnext : after.nextTicket = now.nextTicket := congrArg Callers.next hr.callers
    have hle : after.nextTicket ≤ now.nextTicket + 1 := hnext ▸ Nat.le_succ _
    exact hsent.kept rfl rfl hle
  · next after error hs =>
    rw [hs] at hsent
    exact hsent

/-- Code is sent in both sessions and a caller waits. -/
theorem Parallel.call (h : Parallel gap start now other) (path : Namespace) (code : String)
    {job : Job} (hj : job.AddsNoWaiter) :
    Parallel gap start (now.call path code job).1 (other.call path code job).1 ∧
      (other.call path code job).2
        = (now.call path code job).2.map fun sent => (sent.1, shift gap sent.2) := by
  have hsame := call_renumber h.numbered.passed path code job
  rw [← h.same] at hsame
  refine ⟨⟨h.numbered.call path code hj, congrArg Prod.fst hsame, fun id waiter => ?_⟩,
    by rw [hsame]⟩
  obtain ⟨stages, hu⟩ := h.undergone id waiter
  exact ⟨stages, hu.call path code hj⟩

/-- A list's queue without the caller is the renumbered one. -/
theorem queueOf_renumber (session : Session) (list : NameList) :
    (session.renumber gap).queueOf list = (session.queueOf list).renumber gap := by
  cases list <;> rfl

/-- Who is not left out has been told the same. -/
theorem wordFor_renumber (session : Session) {waiter : Nat} (h : gap ≠ some waiter) :
    (session.renumber gap).router.wordFor (shift gap waiter) = session.router.wordFor waiter :=
  lookup_renumberAll (skip_eq_iff h) session.router.words

/-- Each thing that the stream hands out has the same effect. -/
theorem Parallel.accept (h : Parallel gap start now other) (count : Nat) (delivery : Delivery) :
    Parallel gap start (accept (now, count) delivery).1 (accept (other, count) delivery).1 ∧
      (Session.accept (other, count) delivery).2 = (Session.accept (now, count) delivery).2 := by
  cases delivery with
  | violation why consumed =>
    have hcontext : other.context = now.context := by rw [h.same]; rfl
    rw [Session.accept, Session.accept]
    dsimp only
    rw [hcontext]
    exact ⟨h.note _, rfl⟩
  | response answer =>
    obtain ⟨hrouted, hreply⟩ := @Parallel.perform gap start now other h (.route answer) trivial
    rw [Session.accept, Session.accept]
    cases hn : now.router.perform (.route answer) with
    | mk router reply =>
      cases ho : other.router.perform (.route answer) with
      | mk beside reply' =>
        rw [hn, ho] at hrouted hreply
        obtain rfl : reply' = reply := hreply
        cases reply' <;> exact ⟨hrouted, rfl⟩

/-- Bytes that come in keep sessions parallel, and reach as many jobs in both. -/
theorem Parallel.receive (h : Parallel gap start now other) (chunk : Bytes) :
    Parallel gap start (now.receive chunk).1 (other.receive chunk).1 ∧
      (other.receive chunk).2 = (now.receive chunk).2 := by
  have hall : ∀ (deliveries : List Delivery) (state beside : Session × Nat),
      Parallel gap start state.1 beside.1 → beside.2 = state.2 →
      Parallel gap start (deliveries.foldl Session.accept state).1
          (deliveries.foldl Session.accept beside).1 ∧
        (deliveries.foldl Session.accept beside).2
          = (deliveries.foldl Session.accept state).2 := by
    intro deliveries
    induction deliveries with
    | nil => exact fun _ _ hs hc => ⟨hs, hc⟩
    | cons delivery rest ih =>
      rintro ⟨now, _⟩ ⟨other, count⟩ hs rfl
      obtain ⟨hnext, hcount⟩ := hs.accept count delivery
      exact ih _ _ hnext hcount
  have hinbox : other.inbox = now.inbox := by rw [h.same]; rfl
  unfold Session.receive
  rw [hinbox]
  exact hall _ (_, 0) (_, 0) (h.keep rfl (by rw [h.same]; rfl)) rfl

/-- Ending the jobs keeps sessions parallel, and ends as many in both. -/
theorem Parallel.endJobs (h : Parallel gap start now other) (wasOpen : Bool) :
    Parallel gap start (now.endJobs wasOpen).1 (other.endJobs wasOpen).1 ∧
      (other.endJobs wasOpen).2 = (now.endJobs wasOpen).2 := by
  obtain ⟨hended, -⟩ :=
    @Parallel.perform gap start now other h (.endAll now.settings.onClose) trivial
  have hcount : (Roster.takeAll other.router.roster).1.length
      = (Roster.takeAll now.router.roster).1.length := by
    have hwaiting := Roster.waiting_renumber (skip gap) now.router.roster
    rw [h.same]
    exact (congrArg List.length hwaiting).trans (List.length_map _)
  have hsettings : other.settings = now.settings := by rw [h.same]; rfl
  have hcontext : other.context = now.context := by rw [h.same]; rfl
  have haddress : other.address = now.address := by rw [h.same]; rfl
  unfold Session.endJobs
  dsimp only
  rw [hsettings, hcontext, haddress] at hended ⊢
  rw [hcount]
  exact ⟨hended.note _, rfl⟩

/-- A caller gets what it has waited for. -/
theorem Parallel.settle (h : Parallel gap start now other) {ticket : Nat}
    (ht : Fits gap now.nextTicket ticket) (settled : Settled) :
    Parallel gap start (now.settle ticket settled) (other.settle (shift gap ticket) settled) where
  numbered :=
    { adds := h.numbered.adds
      roster := h.numbered.roster
      words := h.numbered.words
      queues := h.numbered.queues
      settled := List.forall_mem_cons.mpr ⟨ht, h.numbered.settled⟩
      passed := h.numbered.passed }
  same := by
    have hcons : renumberAll (skip gap) ((ticket, settled) :: now.settled)
        = (shift gap ticket, settled) :: renumberAll (skip gap) now.settled := by
      rw [renumberAll, List.filterMap_cons, skip_of_ne ht.present]
      rfl
    rw [h.same]
    exact congrArg (fun settled => ({ now.renumber gap with settled } : Session)) hcons.symm
  undergone id waiter := by
    obtain ⟨stages, hu⟩ := h.undergone id waiter
    exact ⟨stages, hu.kept rfl rfl (Nat.le_refl _)⟩

/-- Others want a list. -/
theorem Parallel.setQueue (h : Parallel gap start now other) (list : NameList) {queue : Queue}
    (hq : queue.Fits gap now.nextTicket) :
    Parallel gap start (now.setQueue list queue) (other.setQueue list (queue.renumber gap)) := by
  have hnumbered : (now.setQueue list queue).Numbered gap := by
    cases list with
    | base =>
      refine
        { adds := h.numbered.adds
          roster := h.numbered.roster
          words := h.numbered.words
          queues := fun list => ?_
          settled := h.numbered.settled
          passed := h.numbered.passed }
      cases list with
      | base => exact hq
      | core => exact h.numbered.queues .core
    | core =>
      refine
        { adds := h.numbered.adds
          roster := h.numbered.roster
          words := h.numbered.words
          queues := fun list => ?_
          settled := h.numbered.settled
          passed := h.numbered.passed }
      cases list with
      | base => exact h.numbered.queues .base
      | core => exact hq
  refine ⟨hnumbered, ?_, fun id waiter => ?_⟩
  · rw [h.same]
    cases list <;> rfl
  · obtain ⟨stages, hu⟩ := h.undergone id waiter
    cases list with
    | base => exact ⟨stages, hu.kept rfl rfl (Nat.le_refl _)⟩
    | core => exact ⟨stages, hu.kept rfl rfl (Nat.le_refl _)⟩

/-- The numbers in a queue are moved down with the session's. -/
theorem Parallel.queueOf (h : Parallel gap start now other) (list : NameList) :
    other.queueOf list = (now.queueOf list).renumber gap := by
  rw [h.same, queueOf_renumber]

/-- Somebody comes to the end of a line. -/
theorem Parallel.stand (h : Parallel gap start now other) (list : NameList) {claim : Claim}
    (hc : Fits gap now.nextTicket claim.ticket) :
    Parallel gap start (now.stand list claim) (other.stand list (claim.renumber gap)) := by
  have hqueue := h.numbered.queues list
  have hfits : Queue.Fits gap now.nextTicket
      { now.queueOf list with line := (now.queueOf list).line ++ [claim] } := by
    refine ⟨hqueue.holder, fun standing hs => ?_⟩
    rcases List.mem_append.mp hs with hs | hs
    · exact hqueue.line standing hs
    · rw [List.mem_singleton.mp hs]
      exact hc
  have hset := h.setQueue list hfits
  rw [Queue.renumber, List.map_append] at hset
  rw [Session.stand, Session.stand, h.queueOf]
  exact hset

/-- Who closes the sessions empties a list in both. -/
theorem Parallel.vacate (h : Parallel gap start now other) (list : NameList) {ticket : Nat}
    (ht : Fits gap now.nextTicket ticket) (wasOpen : Bool) :
    Parallel gap start (now.vacate list ticket wasOpen)
      (other.vacate list (shift gap ticket) wasOpen) := by
  have hemptied (names : KnownNames) :
      Parallel gap start { now with names } { other with names } :=
    h.keep rfl (by rw [h.same]; rfl)
  have hnames : other.names = now.names := by rw [h.same]; rfl
  cases list with
  | base =>
    have hclaim : Fits gap now.nextTicket (Claim.close ticket wasOpen).ticket := ht
    have hstood : Parallel gap start (now.vacate .base ticket wasOpen)
        (Session.stand { other with names := { now.names with base := none } } .core
          (.close (shift gap ticket) wasOpen)) :=
      (hemptied { now.names with base := none }).stand .core hclaim
    rw [← hnames] at hstood
    exact hstood
  | core =>
    obtain ⟨hended, hcount⟩ := (hemptied { now.names with core := none }).endJobs wasOpen
    unfold Session.vacate
    dsimp only
    rw [hnames, hcount]
    exact hended.settle ht _

/-- Emptying a list gives out no number. -/
theorem nextTicket_vacate (session : Session) (list : NameList) (ticket : Nat) (wasOpen : Bool) :
    (session.vacate list ticket wasOpen).nextTicket = session.nextTicket := by
  cases list <;> rfl

/-- A call that succeeds gives out one number, to its caller, and one that fails none. -/
theorem nextTicket_call (session : Session) (path : Namespace) (code : String) (job : Job) :
    match session.call path code job with
    | (after, .ok (_, waiter)) =>
      waiter = session.nextTicket ∧ after.nextTicket = session.nextTicket + 1
    | (after, .error _) => after.nextTicket = session.nextTicket := by
  have hr := registers_send session path code { job with waiter := some session.nextTicket }
  unfold Session.call
  dsimp only
  cases hs : session.send path code { job with waiter := some session.nextTicket } with
  | mk after result =>
    rw [hs] at hr
    cases result with
    | ok sent => exact ⟨rfl, rfl⟩
    | error error => exact congrArg Callers.next hr.callers

/-- The line of a list is served in both sessions, until a query is in flight. -/
theorem Parallel.serve (h : Parallel gap start now other) (list : NameList)
    {claims : List Claim} (hc : ∀ claim ∈ claims, Fits gap now.nextTicket claim.ticket) :
    Parallel gap start (serve list claims now).1
        (serve list (claims.map (Claim.renumber gap)) other).1 ∧
      (Session.serve list (claims.map (Claim.renumber gap)) other).2
        = (Session.serve list claims now).2.renumber gap ∧
      (Session.serve list claims now).2.Fits gap (Session.serve list claims now).1.nextTicket := by
  induction claims generalizing now other with
  | nil =>
    refine ⟨h, rfl, fun query hq => absurd hq (by simp [Session.serve]), fun claim hm => ?_⟩
    exact absurd hm List.not_mem_nil
  | cons claim rest ih =>
    obtain ⟨hfirst, hrest⟩ := List.forall_mem_cons.mp hc
    cases claim with
    | close ticket wasOpen =>
      refine ih (h.vacate list hfirst wasOpen) ?_
      rw [nextTicket_vacate]
      exact hrest
    | names ticket =>
      have hnames : other.names = now.names := by rw [h.same]; rfl
      have hask : other.call .root (other.settings.question list) other.inquiry
          = other.call .root (now.settings.question list) now.inquiry := by
        rw [h.same]
        rfl
      have hpassive : now.inquiry.IsPassive := ⟨rfl, rfl⟩
      obtain ⟨hcall, hresult⟩ :=
        h.call .root (now.settings.question list) hpassive.addsNoWaiter
      have hnext := nextTicket_call now .root (now.settings.question list) now.inquiry
      rw [List.map_cons, Claim.renumber, Session.serve, Session.serve, hnames, hask]
      cases now.names.get list with
      | some names => exact ih (h.settle hfirst _) hrest
      | none =>
        cases hn : now.call .root (now.settings.question list) now.inquiry with
        | mk after result =>
          cases ho : other.call .root (now.settings.question list) now.inquiry with
          | mk beside result' =>
            rw [hn, ho] at hcall hresult
            rw [hn] at hnext
            obtain rfl : result' = result.map fun sent => (sent.1, shift gap sent.2) := hresult
            cases result with
            | ok sent =>
              obtain ⟨hwaiter, hticket⟩ := hnext
              have hgiven : now.nextTicket ≤ after.nextTicket := hticket ▸ Nat.le_succ _
              have hasker : Fits gap after.nextTicket sent.2 := by
                rw [hwaiter, hticket]
                exact fits_next h.numbered.passed
              refine ⟨hcall, rfl, fun query hq => ?_, fun claim hm => ?_⟩
              · obtain rfl := Option.some.inj hq
                exact ⟨hfirst.mono hgiven, hasker⟩
              · exact (hrest claim hm).mono hgiven
            | error error =>
              have hsame : after.nextTicket = now.nextTicket := hnext
              rw [← hsame] at hfirst hrest
              exact ih (hcall.settle hfirst _) hrest

/-- Those who have come to a list in the meantime stand behind the others. -/
theorem Parallel.leave (h : Parallel gap start now other) (list : NameList) {queue : Queue}
    (hq : queue.Fits gap now.nextTicket) :
    Parallel gap start
      (now.setQueue list ⟨queue.holder, queue.line ++ (now.queueOf list).line⟩)
      (other.setQueue list
        ⟨(queue.renumber gap).holder, (queue.renumber gap).line ++ (other.queueOf list).line⟩) := by
  have hbehind := (h.numbered.queues list).line
  have hall : Queue.Fits gap now.nextTicket
      ⟨queue.holder, queue.line ++ (now.queueOf list).line⟩ :=
    ⟨hq.holder, fun claim hm => (List.mem_append.mp hm).elim (hq.line claim) (hbehind claim)⟩
  have hset := h.setQueue list hall
  rw [Queue.renumber, List.map_append] at hset
  rw [h.queueOf]
  exact hset

/-- Serving a list keeps sessions parallel. -/
theorem Parallel.serveList (h : Parallel gap start now other) (list : NameList) :
    Parallel gap start (serveList list now) (serveList list other) := by
  have hidle : Queue.Fits gap now.nextTicket ⟨none, []⟩ :=
    ⟨fun query hq => absurd hq (by simp), fun claim hm => absurd hm List.not_mem_nil⟩
  have hnext : (now.setQueue list ⟨none, []⟩).nextTicket = now.nextTicket := by
    cases list <;> rfl
  have hline := (h.numbered.queues list).line
  rw [← hnext] at hline
  obtain ⟨hserved, hqueue, hfits⟩ := (h.setQueue list hidle).serve list hline
  have hleft := hserved.leave list hfits
  rw [← hqueue] at hleft
  unfold Session.serveList
  rw [h.queueOf]
  exact hleft

/-- A query ends in both sessions with the same names. -/
theorem Parallel.endQuery (h : Parallel gap start now other) (list : NameList) {query : Query}
    (ht : Fits gap now.nextTicket query.ticket) (hw : Fits gap now.nextTicket query.waiter) :
    Parallel gap start (now.endQuery list query) (other.endQuery list (query.renumber gap)) := by
  have hreply : other.replyTo (shift gap query.waiter) = now.replyTo query.waiter := by
    rw [h.same, replyTo, wordFor_renumber now hw.present, ← replyTo]
  have hnames : other.names = now.names := by rw [h.same]; rfl
  have hfilled (names : KnownNames) :
      Parallel gap start { now with names } { other with names } :=
    h.keep rfl (by rw [h.same]; rfl)
  unfold Session.endQuery
  dsimp only [Query.renumber]
  rw [hreply, hnames]
  cases namesOf list (now.replyTo query.waiter) with
  | ok names =>
    exact ((hfilled (now.names.fill list names)).settle ht (.names (.ok names))).serveList list
  | error error =>
    exact ((hfilled now.names).settle ht (.names (.error error))).serveList list

/-- So does going on with a list. -/
theorem Parallel.resumeList (h : Parallel gap start now other) (list : NameList) :
    Parallel gap start (resumeList list now) (resumeList list other) := by
  have hholder := (h.numbered.queues list).holder
  unfold Session.resumeList
  rw [h.queueOf, Queue.renumber]
  cases hq : (now.queueOf list).holder with
  | none => exact h.serveList list
  | some query =>
    obtain ⟨ht, hw⟩ := hholder query hq
    have hword : other.router.wordFor (shift gap query.waiter)
        = now.router.wordFor query.waiter := by
      rw [h.same, wordFor_renumber now hw.present]
    dsimp only [Option.map_some, Query.renumber]
    rw [hword]
    split
    · exact h.endQuery list ht hw
    · exact h

/-- So does going on with both. -/
theorem Parallel.resume (h : Parallel gap start now other) :
    Parallel gap start now.resume other.resume :=
  (h.resumeList .base).resumeList .core

/-- A caller comes and gets the next number. -/
theorem Parallel.advance (h : Parallel gap start now other) :
    Parallel gap start { now with nextTicket := now.nextTicket + 1 }
      { other with nextTicket := other.nextTicket + 1 } where
  numbered := h.numbered.advance (Nat.le_succ _)
  same := by
    rw [h.same]
    exact congrArg (fun next => ({ now.renumber gap with nextTicket := next } : Session))
      (shift_succ h.numbered.passed).symm
  undergone id waiter := by
    obtain ⟨stages, hu⟩ := h.undergone id waiter
    exact ⟨stages, hu.kept rfl rfl (Nat.le_succ _)⟩

/-- The next number in the other session is the one with a caller less. -/
theorem Parallel.nextTicket (h : Parallel gap start now other) :
    other.nextTicket = shift gap now.nextTicket := by
  rw [h.same]
  rfl

/-- Asking for names keeps sessions parallel. -/
theorem Parallel.askNames (h : Parallel gap start now other) (list : NameList) :
    Parallel gap start (now.askNames list).1 (other.askNames list).1 := by
  have hclaim : Fits gap (now.nextTicket + 1) (Claim.names now.nextTicket).ticket :=
    fits_next h.numbered.passed
  have hstood := h.advance.stand list hclaim
  rw [Claim.renumber, ← h.nextTicket] at hstood
  exact hstood.resume

/-- So does the end of a query's time. -/
theorem Parallel.expireNames (h : Parallel gap start now other) (list : NameList) :
    Parallel gap start (now.expireNames list) (other.expireNames list) := by
  have hholder := (h.numbered.queues list).holder
  unfold Session.expireNames
  rw [h.queueOf, Queue.renumber]
  cases hq : (now.queueOf list).holder with
  | none => exact h
  | some query =>
    obtain ⟨ht, hw⟩ := hholder query hq
    exact (h.endQuery list ht hw).resume

/-- So does closing. -/
theorem Parallel.close (h : Parallel gap start now other) :
    Parallel gap start now.close.1 other.close.1 := by
  have hshut : Parallel gap start (shut { now with nextTicket := now.nextTicket + 1 }).1
      (shut { other with nextTicket := other.nextTicket + 1 }).1 :=
    h.advance.keep rfl (by rw [h.advance.same]; rfl)
  have hopen : (shut { other with nextTicket := other.nextTicket + 1 }).2
      = (shut { now with nextTicket := now.nextTicket + 1 }).2 := by
    rw [h.same]
    rfl
  have hclaim : Fits gap (now.nextTicket + 1) (Claim.close now.nextTicket
      (shut { now with nextTicket := now.nextTicket + 1 }).2).ticket :=
    fits_next h.numbered.passed
  have hsame : Claim.renumber gap (.close now.nextTicket
        (shut { now with nextTicket := now.nextTicket + 1 }).2)
      = .close other.nextTicket (shut { other with nextTicket := other.nextTicket + 1 }).2 := by
    rw [Claim.renumber, ← h.nextTicket, hopen]
  have hstood := hshut.stand .base hclaim
  rw [hsame] at hstood
  exact hstood.resume

/-- The interpreter goes away in both sessions. -/
theorem Parallel.disconnect (h : Parallel gap start now other) (notice : Notice) :
    Parallel gap start { now.note [.notice notice] with connected := false }
      { other.note [.notice notice] with connected := false } :=
  (h.note [.notice notice]).keep rfl (by rw [h.same]; rfl)

/-- So does an interpreter that hangs up. -/
theorem Parallel.hangUp (h : Parallel gap start now other) :
    Parallel gap start now.hangUp other.hangUp := by
  have hconnected : other.connected = now.connected := by rw [h.same]; rfl
  have hcontext : other.context = now.context := by rw [h.same]; rfl
  unfold Session.hangUp
  rw [hconnected, hcontext]
  split
  · exact h.disconnect _
  · exact h

/-- So does a failure to read. -/
theorem Parallel.readFails (h : Parallel gap start now other) (cause : String) :
    Parallel gap start (now.readFails cause) (other.readFails cause) := by
  have hconnected : other.connected = now.connected := by rw [h.same]; rfl
  have hcontext : other.context = now.context := by rw [h.same]; rfl
  unfold Session.readFails
  rw [hconnected, hcontext]
  split
  · exact h.disconnect _
  · exact h

/-- So does the loss of the way to the interpreter. -/
theorem Parallel.breakWrites (h : Parallel gap start now other) :
    Parallel gap start now.breakWrites other.breakWrites := by
  have hchannel : other.channel = now.channel := by rw [h.same]; rfl
  unfold Session.breakWrites
  rw [hchannel]
  split
  · exact h.keep rfl (by rw [h.same]; rfl)
  · exact h

/-- So does deleting a file, and it was there in both sessions or in neither. -/
theorem Parallel.deleteFile (h : Parallel gap start now other) (path : String) :
    Parallel gap start (now.deleteFile path).1 (other.deleteFile path).1 ∧
      (other.deleteFile path).2 = (now.deleteFile path).2 := by
  obtain ⟨hdeleted, -⟩ := @Parallel.perform gap start now other h (.deleteFile path) trivial
  have hfiles : other.router.files = now.router.files := by rw [h.same]; rfl
  refine ⟨hdeleted, ?_⟩
  unfold Session.deleteFile
  dsimp only
  rw [hfiles]

/-- Both sessions make the same move. -/
theorem Parallel.act (h : Parallel gap start now other) {move : Move} (hm : move.AddsNoWaiter) :
    Parallel gap start (now.act move) (other.act move) := by
  cases move with
  | send path code job => exact (h.send path code hm.2 hm.1).1
  | call path code job => exact (h.call path code hm).1
  | eval path code =>
    have hjob : other.evaluation = now.evaluation := by rw [h.same]; rfl
    have hpassive : now.evaluation.IsPassive := ⟨rfl, rfl⟩
    rw [Session.act, Session.act, Session.eval, Session.eval, hjob]
    exact (h.call path code hpassive.addsNoWaiter).1
  | askNames list => exact h.askNames list
  | expireNames list => exact h.expireNames list
  | receive chunk => exact (h.receive chunk).1
  | resume => exact h.resume
  | feed chunk => exact (h.receive chunk).1.resume
  | hangUp => exact h.hangUp
  | readFails cause => exact h.readFails cause
  | breakWrites => exact h.breakWrites
  | close => exact h.close
  | allowSpills canSpill => exact h.keep rfl (by rw [h.same]; rfl)
  | place attachment => exact h.keep rfl (by rw [h.same]; rfl)
  | deleteFile path => exact (h.deleteFile path).1

/-- Both sessions make the same moves. -/
theorem Parallel.run (h : Parallel gap start now other) {moves : List Move}
    (hm : ∀ move ∈ moves, move.AddsNoWaiter) :
    Parallel gap start (now.run moves) (other.run moves) := by
  induction moves generalizing now other with
  | nil => exact h
  | cons move rest ih =>
    exact ih (h.act (hm move List.mem_cons_self))
      fun other ho => hm other (List.mem_cons_of_mem _ ho)

/-- A move yields the same in both sessions. -/
theorem Parallel.yields (h : Parallel gap start now other) {move : Move}
    (hm : move.AddsNoWaiter) : other.yields move = now.yields move := by
  have hcall (path : Namespace) (code : String) {job : Job} (hj : job.AddsNoWaiter) :
      (other.call path code job).2.map (·.1) = (now.call path code job).2.map (·.1) := by
    rw [(h.call path code hj).2]
    cases (now.call path code job).2 <;> rfl
  cases move with
  | send path code job => exact congrArg Yield.sent (h.send path code hm.2 hm.1).2
  | call path code job => exact congrArg Yield.sent (hcall path code hm)
  | eval path code =>
    have hjob : other.evaluation = now.evaluation := by rw [h.same]; rfl
    have hpassive : now.evaluation.IsPassive := ⟨rfl, rfl⟩
    rw [Session.yields, Session.yields, Session.eval, Session.eval, hjob]
    exact congrArg Yield.sent (hcall path code hpassive.addsNoWaiter)
  | receive chunk => exact congrArg Yield.count (h.receive chunk).2
  | feed chunk => exact congrArg Yield.count (h.receive chunk).2
  | deleteFile path => exact congrArg Yield.truth (h.deleteFile path).2
  | _ => rfl

end Parallel

end Session

end ReplLink
