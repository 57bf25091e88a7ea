import ReplLink.Proofs.Routing.Rest
import ReplLink.Proofs.Session.Moves

/-!
# Closing a session

Who closes a session shuts it first, then empties both lists of names, waiting for
a list while a query for it is in flight, and then ends the jobs. Others go on
meanwhile: names are asked for, responses come in, more callers close the session.
Still, where one of them has come to a list, the session is shut and the lists
before it are empty, and they stay so: a list is filled only by a query that is in
flight, and none can be sent any more. When the first one is done, nothing is
registered.
-/

namespace ReplLink.Routing.Router

open ReplLink.Stream

/-- Where nothing is registered, whatever the stream hands out is a stray. -/
theorem foldl_accept_of_empty (context : String) (deliveries : List Delivery) {router : Router}
    (h : router.roster = .empty) (count : Nat) :
    ∃ strays, (∀ event ∈ strays, isStray event = true) ∧
      deliveries.foldl (accept context) (router, count) = (router.note strays, count) := by
  induction deliveries generalizing router with
  | nil => exact ⟨[], List.forall_mem_nil _, by rw [List.foldl_nil, note_nil]⟩
  | cons delivery rest ih =>
    have hone : ∃ stray, isStray stray = true ∧
        accept context (router, count) delivery = (router.note [stray], count) := by
      cases delivery with
      | violation why consumed => exact ⟨_, rfl, rfl⟩
      | response answer =>
        refine ⟨.notice (.unknownResponse answer.requestId), rfl, ?_⟩
        rw [accept, perform_route_of_empty h]
    obtain ⟨stray, hstray, hfirst⟩ := hone
    have hempty : (router.note [stray]).roster = .empty := h
    obtain ⟨strays, hstrays, hrest⟩ := ih hempty
    refine ⟨stray :: strays, List.forall_mem_cons.mpr ⟨hstray, hstrays⟩, ?_⟩
    rw [List.foldl_cons, hfirst, hrest, note, note, List.append_assoc]
    rfl

/-- Routing what the stream hands out leaves nobody out. -/
theorem isAtRest_foldl_accept {policy : Policy} (context : String) (deliveries : List Delivery)
    {router : Router} (h : router.roster.IsAtRest policy) (count : Nat) :
    (deliveries.foldl (accept context) (router, count)).1.roster.IsAtRest policy := by
  induction deliveries generalizing router count with
  | nil => exact h
  | cons delivery rest ih =>
    have hone : (accept context (router, count) delivery).1.roster.IsAtRest policy := by
      cases delivery with
      | violation why consumed => exact h
      | response answer =>
        have hrouted : (router.perform (.route answer)).1.roster.IsAtRest policy :=
          isAtRest_perform h fun id job he => absurd he (by simp)
        rw [accept]
        split
        · next router hr =>
          rw [hr] at hrouted
          exact hrouted
        · next router reply _ hr =>
          rw [hr] at hrouted
          exact hrouted
    exact ih hone _

end ReplLink.Routing.Router

namespace ReplLink.Session

open ReplLink.Routing ReplLink.Stream ReplLink.Text

section Definitions

/-- The session sends nothing any more. -/
structure IsShut (session : Session) : Prop where
  /-- It is not connected. -/
  disconnected : session.connected = false
  /-- Its channel is shut. -/
  shut : session.channel = .shut

/-- A list of names is empty, and no query will fill it. -/
structure IsVacated (session : Session) (list : NameList) : Prop where
  /-- No query is in flight. -/
  free : (session.queueOf list).holder = none
  /-- No names are known. -/
  unknown : session.names.get list = none

/-- What has been done before somebody who closes the session stands in the line of a
list. -/
def MayEmpty (session : Session) : NameList → Prop
  | .base => session.IsShut
  | .core => session.IsShut ∧ session.IsVacated .base

/-- A list may be emptied only where nothing is sent any more. -/
theorem MayEmpty.isShut {session : Session} {list : NameList} (h : session.MayEmpty list) :
    session.IsShut := by
  cases list with
  | base => exact h
  | core => exact h.1

/-- Whoever closes the session among these claims may stand in the line of a list. -/
def Admits (session : Session) (list : NameList) (claims : List Claim) : Prop :=
  ∀ ticket wasOpen, Claim.close ticket wasOpen ∈ claims → session.MayEmpty list

/-- The session has been closed. -/
structure IsClosed (session : Session) : Prop where
  /-- It is shut. -/
  shut : session.IsShut
  /-- Both lists of names are empty. -/
  vacated : ∀ list, session.IsVacated list
  /-- Nothing is registered. -/
  ended : session.router.roster = .empty

/-- When a session has been closed, everything has been done that comes before emptying a list.
-/
theorem IsClosed.mayEmpty {session : Session} (h : session.IsClosed) (list : NameList) :
    session.MayEmpty list := by
  cases list with
  | base => exact h.shut
  | core => exact ⟨h.shut, h.vacated .base⟩

/-- Closing the session, under a policy, goes in order. -/
structure IsOrderly (policy : Policy) (session : Session) : Prop where
  /-- This is the policy. -/
  setting : session.settings.onClose = policy
  /-- No callback runs. -/
  rest : session.router.roster.IsAtRest policy
  /-- Whoever stands in a line may. -/
  admitted : ∀ list, session.Admits list (session.queueOf list).line
  /-- If anybody is done with closing the session, it is closed. -/
  done : ∀ ticket count, (ticket, Settled.closed count) ∈ session.settled → session.IsClosed

/-- Nobody stands in line for a free list. -/
def IsServed (session : Session) (list : NameList) : Prop :=
  (session.queueOf list).holder = none → (session.queueOf list).line = []

/-- All of a session that closing it depends on, but for the jobs. -/
structure Standing where
  /-- Neither has the interpreter hung up nor is the session closed. -/
  connected : Bool
  /-- The way to the interpreter. -/
  channel : Channel
  /-- The settings. -/
  settings : Settings
  /-- The names that are known. -/
  names : KnownNames
  /-- Those who want the names of the standard library. -/
  baseQueue : Queue
  /-- Those who want the names built into the interpreter. -/
  coreQueue : Queue
  /-- What callers have got who had to wait. -/
  settled : List (Nat × Settled)

/-- The standing of a session. -/
def standing (session : Session) : Standing where
  connected := session.connected
  channel := session.channel
  settings := session.settings
  names := session.names
  baseQueue := session.baseQueue
  coreQueue := session.coreQueue
  settled := session.settled

end Definitions

section Standing

variable {before after : Session}

/-- Those who want the names of a list belong to the standing of a session. -/
theorem queueOf_congr (h : after.standing = before.standing) (list : NameList) :
    after.queueOf list = before.queueOf list := by
  cases list with
  | base => exact congrArg Standing.baseQueue h
  | core => exact congrArg Standing.coreQueue h

/-- Whether a session is shut depends on its standing only. -/
theorem IsShut.congr (hs : before.IsShut) (h : after.standing = before.standing) :
    after.IsShut where
  disconnected := (congrArg Standing.connected h).trans hs.disconnected
  shut := (congrArg Standing.channel h).trans hs.shut

/-- Whether a list is vacated depends on the standing only. -/
theorem IsVacated.congr {list : NameList} (hv : before.IsVacated list)
    (h : after.standing = before.standing) : after.IsVacated list := by
  have hnames : after.names = before.names := congrArg Standing.names h
  exact ⟨queueOf_congr h list ▸ hv.free, hnames ▸ hv.unknown⟩

/-- What comes before emptying a list depends on the standing only. -/
theorem MayEmpty.congr {list : NameList} (hm : before.MayEmpty list)
    (h : after.standing = before.standing) : after.MayEmpty list := by
  cases list with
  | base => exact IsShut.congr hm h
  | core => exact ⟨hm.1.congr h, hm.2.congr h⟩

/-- So does who may stand in the line of a list. -/
theorem Admits.congr {list : NameList} {claims : List Claim} (ha : before.Admits list claims)
    (h : after.standing = before.standing) : after.Admits list claims :=
  fun ticket wasOpen hm => (ha ticket wasOpen hm).congr h

/-- A session that has been closed stays so when its standing does and nothing is registered. -/
theorem IsClosed.congr (hc : before.IsClosed) (h : after.standing = before.standing)
    (he : after.router.roster = .empty) : after.IsClosed :=
  ⟨hc.shut.congr h, fun list => (hc.vacated list).congr h, he⟩

/-- What leaves the standing and the rest of the roster alone keeps the order, if it
leaves a closed session without jobs. -/
theorem IsOrderly.congr {policy : Policy} (ho : before.IsOrderly policy)
    (h : after.standing = before.standing) (hr : after.router.roster.IsAtRest policy)
    (he : before.IsClosed → after.router.roster = .empty) : after.IsOrderly policy where
  setting := by
    have hsettings : after.settings = before.settings := congrArg Standing.settings h
    rw [hsettings]
    exact ho.setting
  rest := hr
  admitted := by
    intro list
    rw [queueOf_congr h list]
    exact (ho.admitted list).congr h
  done := by
    intro ticket count hm
    have hsettled : after.settled = before.settled := congrArg Standing.settled h
    have hclosed := ho.done ticket count (hsettled ▸ hm)
    exact hclosed.congr h (he hclosed)

/-- Taking a request back leaves the standing alone. -/
theorem standing_takeBack (session : Session) (id : String) (error : SessionError) :
    (session.takeBack id error).standing = session.standing := by
  unfold takeBack
  dsimp only
  split <;> rfl

/-- Writing a line or failing to leaves the standing alone. -/
theorem standing_write (session : Session) (id line : String) :
    (session.write id line).1.standing = session.standing := by
  unfold write
  split
  · rfl
  · exact standing_takeBack session id _
  · exact standing_takeBack session id _

/-- Sending leaves the standing alone: it is about jobs, lines and files. -/
theorem standing_send (session : Session) (path : Namespace) (code : String) (job : Job) :
    (session.send path code job).1.standing = session.standing := by
  rcases send_cases session path code job with ⟨error, hs⟩ | ⟨line, hs⟩
  · rw [hs]
  · rw [hs, standing_write]
    rfl

/-- So does sending for a caller who waits. -/
theorem standing_call (session : Session) (path : Namespace) (code : String) (job : Job) :
    (session.call path code job).1.standing = session.standing := by
  have hsend := standing_send session path code { job with waiter := some session.nextTicket }
  unfold call
  dsimp only
  split
  · next after sent hs =>
    rw [hs] at hsend
    exact hsend
  · next after error hs =>
    rw [hs] at hsend
    exact hsend

/-- Bytes that come in leave the standing alone, for names are learnt by whoever asked for them.
-/
theorem standing_receive (session : Session) (chunk : Bytes) :
    (session.receive chunk).1.standing = session.standing := by
  rw [receive_eq]
  rfl

end Standing

section Deeds

variable {policy : Policy} {session : Session}

/-- Nothing is sent without a connection, not even a refusal of the namespace. -/
theorem send_of_disconnected (h : session.connected = false) (path : Namespace) (code : String)
    (job : Job) : session.send path code job = (session, .error .closed) := by
  rw [send, h]
  rfl

/-- Without a connection a call fails at once and changes nothing. -/
theorem call_of_disconnected (h : session.connected = false) (path : Namespace) (code : String)
    (job : Job) : session.call path code job = (session, .error .closed) := by
  rw [call, send_of_disconnected h]

/-- Who has a line sent has a connection. -/
theorem connected_of_call {path : Namespace} {code : String} {job : Job} {after : Session}
    {got : Sent × Nat} (h : session.call path code job = (after, .ok got)) :
    session.connected = true := by
  cases hc : session.connected with
  | true => rfl
  | false =>
    rw [call_of_disconnected hc] at h
    exact absurd (congrArg Prod.snd h) (by simp)

/-- What is sent waits, and what is not leaves no trace in the roster. -/
theorem isAtRest_send (hr : session.router.roster.IsAtRest policy) (path : Namespace)
    (code : String) {job : Job} (hq : job.EndsQuietly policy) :
    (session.send path code job).1.router.roster.IsAtRest policy := by
  rcases send_cases session path code job with ⟨error, hs⟩ | ⟨line, hs⟩
  · rw [hs]
    exact hr
  · let charge := session.chargeFor code job
    have hfree : session.router.roster.get? charge.id = none := RequestId.get?_fresh _ _
    have hsame := charge.callbacks_registered session.spillPath
    have hquiet : (charge.registered session.spillPath).EndsQuietly policy :=
      hq.congr hsame.1 hsame.2.1
    have hentered : (session.entered charge).router.roster
        = session.router.roster.put charge.id (.held (charge.registered session.spillPath)) := rfl
    have hheld := session.heldUnder_entered charge
    rw [hs]
    rcases (write_cases hheld line).2.2 with ⟨-, hroster⟩ | ⟨-, hroster⟩
    · rw [hroster, hentered]
      exact hr.put_held hfree hquiet
    · rw [hroster, erase_entered hfree]
      exact hr

/-- Sending a job that ends quietly keeps the order. -/
theorem IsOrderly.send (h : session.IsOrderly policy) (path : Namespace) (code : String)
    {job : Job} (hq : job.EndsQuietly policy) :
    (session.send path code job).1.IsOrderly policy := by
  refine h.congr (standing_send session path code job) (isAtRest_send h.rest path code hq) ?_
  intro hc
  rw [send_of_disconnected hc.shut.disconnected]
  exact hc.ended

/-- So does a call of such a job. -/
theorem IsOrderly.call (h : session.IsOrderly policy) (path : Namespace) (code : String)
    {job : Job} (hq : job.EndsQuietly policy) :
    (session.call path code job).1.IsOrderly policy := by
  have hwaited : JobOf.EndsQuietly policy { job with waiter := some session.nextTicket } :=
    hq.congr rfl rfl
  have hsend := h.send path code hwaited
  unfold Session.call
  dsimp only
  split
  · next after sent hs =>
    rw [hs] at hsend
    exact hsend.congr rfl hsend.rest IsClosed.ended
  · next after error hs =>
    rw [hs] at hsend
    exact hsend

/-- Bytes that come in keep the order, whatever responses they make up. -/
theorem IsOrderly.receive (h : session.IsOrderly policy) (chunk : Bytes) :
    (session.receive chunk).1.IsOrderly policy := by
  refine h.congr (standing_receive session chunk) ?_ fun hc => ?_
  · rw [receive_eq]
    exact Router.isAtRest_foldl_accept session.context _ h.rest 0
  · obtain ⟨strays, -, hall⟩ := Router.foldl_accept_of_empty session.context
      (session.inbox.receive chunk).1 hc.ended 0
    rw [receive_eq, hall]
    exact hc.ended

/-- Where the session is not shut, nobody is about to close it. So as far as the order
goes, anything may become of it, but for the lines and what callers have got. -/
theorem IsOrderly.of_not_isShut {after : Session} (h : session.IsOrderly policy)
    (hs : ¬session.IsShut) (hsettings : after.settings = session.settings)
    (hqueue : ∀ list, after.queueOf list = session.queueOf list)
    (hsettled : after.settled = session.settled) (hr : after.router.roster.IsAtRest policy) :
    after.IsOrderly policy where
  setting := hsettings ▸ h.setting
  rest := hr
  admitted := fun list ticket wasOpen hm =>
    absurd (h.admitted list ticket wasOpen (hqueue list ▸ hm)).isShut hs
  done := fun ticket count hm => absurd (h.done ticket count (hsettled ▸ hm)).shut hs

/-- What a caller has got is no part of a queue. -/
@[simp] theorem queueOf_settle (session : Session) (list : NameList) (ticket : Nat)
    (settled : Settled) : (session.settle ticket settled).queueOf list = session.queueOf list := by
  cases list <;> rfl

/-- A list stays vacated when a caller gets something. -/
theorem IsVacated.settle {list : NameList} (h : session.IsVacated list) (ticket : Nat)
    (settled : Settled) : (session.settle ticket settled).IsVacated list where
  free := by
    rw [queueOf_settle]
    exact h.free
  unknown := h.unknown

/-- What comes before emptying a list stays done when a caller gets something. -/
theorem MayEmpty.settle {list : NameList} (h : session.MayEmpty list) (ticket : Nat)
    (settled : Settled) : (session.settle ticket settled).MayEmpty list := by
  cases list with
  | base => exact ⟨h.disconnected, h.shut⟩
  | core => exact ⟨⟨h.1.disconnected, h.1.shut⟩, h.2.settle ticket settled⟩

/-- A closed session stays closed when a caller gets something. -/
theorem IsClosed.settle (h : session.IsClosed) (ticket : Nat) (settled : Settled) :
    (session.settle ticket settled).IsClosed where
  shut := ⟨h.shut.disconnected, h.shut.shut⟩
  vacated := fun list => (h.vacated list).settle ticket settled
  ended := h.ended

/-- What a caller gets changes nothing but that. -/
theorem IsOrderly.settle (h : session.IsOrderly policy) (ticket : Nat) {settled : Settled}
    (hc : ∀ count, settled = .closed count → session.IsClosed) :
    (session.settle ticket settled).IsOrderly policy := by
  refine ⟨h.setting, h.rest, fun list other wasOpen hm => ?_, fun other count hm => ?_⟩
  · rw [queueOf_settle] at hm
    exact (h.admitted list other wasOpen hm).settle ticket settled
  · have hclosed : session.IsClosed := by
      rcases List.mem_cons.mp hm with he | hm
      · exact hc count (Prod.mk.inj he).2.symm
      · exact h.done other count hm
    exact hclosed.settle ticket settled

/-- A caller gets names, or learns that there are none. -/
theorem IsOrderly.settleNames (h : session.IsOrderly policy) (ticket : Nat)
    (result : Except SessionError (List String)) :
    (session.settle ticket (.names result)).IsOrderly policy :=
  h.settle ticket fun _ he => nomatch he

/-- The queue of a list is no reason for or against standing in its line. -/
theorem MayEmpty.setQueue {list : NameList} (h : session.MayEmpty list) (queue : Queue) :
    (session.setQueue list queue).MayEmpty list := by
  cases list with
  | base => exact ⟨h.disconnected, h.shut⟩
  | core => exact ⟨⟨h.1.disconnected, h.1.shut⟩, ⟨h.2.free, h.2.unknown⟩⟩

/-- A list has the queue that it was given. -/
theorem queueOf_setQueue_self (session : Session) (list : NameList) (queue : Queue) :
    (session.setQueue list queue).queueOf list = queue := by
  cases list <;> rfl

/-- The other list keeps its queue. -/
theorem queueOf_setQueue_of_ne (session : Session) {list other : NameList} (h : other ≠ list)
    (queue : Queue) : (session.setQueue list queue).queueOf other = session.queueOf other := by
  cases list <;> cases other <;> first | rfl | exact absurd rfl h

/-- What is known does not depend on who waits. -/
theorem names_setQueue (session : Session) (list : NameList) (queue : Queue) :
    (session.setQueue list queue).names = session.names := by
  cases list <;> rfl

/-- A shut session stays shut, whoever waits. -/
theorem IsShut.setQueue (h : session.IsShut) (list : NameList) (queue : Queue) :
    (session.setQueue list queue).IsShut := by
  cases list with
  | base => exact ⟨h.disconnected, h.shut⟩
  | core => exact ⟨h.disconnected, h.shut⟩

/-- A list stays empty if no query for it comes into flight. -/
theorem IsVacated.setQueue {list other : NameList} (h : session.IsVacated other) {queue : Queue}
    (hf : (session.queueOf list).holder = none → queue.holder = none) :
    (session.setQueue list queue).IsVacated other where
  free := by
    by_cases he : other = list
    · rw [he, queueOf_setQueue_self]
      exact hf (he ▸ h.free)
    · rw [queueOf_setQueue_of_ne session he]
      exact h.free
  unknown := by
    rw [names_setQueue]
    exact h.unknown

/-- A queue may change if those in its line may stand there, and if no query is in
flight afterwards that was not before, unless the session is connected. -/
theorem IsOrderly.setQueue (h : session.IsOrderly policy) {list : NameList} {queue : Queue}
    (ha : session.Admits list queue.line)
    (hf : (session.queueOf list).holder = none → queue.holder = none ∨ session.connected = true) :
    (session.setQueue list queue).IsOrderly policy := by
  -- A query can be sent only where the session is not shut.
  have hvacated {other : NameList} (hs : session.IsShut) (hv : session.IsVacated other) :
      (session.setQueue list queue).IsVacated other :=
    hv.setQueue fun hn =>
      (hf hn).resolve_right fun hc => absurd (hs.disconnected.symm.trans hc) (by simp)
  have hrouter : (session.setQueue list queue).router = session.router := by
    cases list <;> rfl
  have hsettings : (session.setQueue list queue).settings = session.settings := by
    cases list <;> rfl
  have hsettled : (session.setQueue list queue).settled = session.settled := by
    cases list <;> rfl
  refine ⟨hsettings ▸ h.setting, hrouter ▸ h.rest, fun other => ?_, fun ticket count hm => ?_⟩
  · by_cases he : other = list
    · subst he
      rw [queueOf_setQueue_self]
      exact fun ticket wasOpen hm => (ha ticket wasOpen hm).setQueue queue
    · rw [queueOf_setQueue_of_ne session he]
      intro ticket wasOpen hm
      have hmay := h.admitted other ticket wasOpen hm
      cases other with
      | base => exact IsShut.setQueue hmay list queue
      | core => exact ⟨hmay.1.setQueue list queue, hvacated hmay.1 hmay.2⟩
  · have hclosed := h.done ticket count (hsettled ▸ hm)
    exact ⟨hclosed.shut.setQueue list queue, fun other => hvacated hclosed.shut
      (hclosed.vacated other), hrouter ▸ hclosed.ended⟩

/-- A closed session is in order. -/
theorem IsClosed.isOrderly (h : session.IsClosed) (hs : session.settings.onClose = policy) :
    session.IsOrderly policy where
  setting := hs
  rest := by
    rw [h.ended]
    exact Roster.isAtRest_empty policy
  admitted := fun list _ _ _ => h.mayEmpty list
  done := fun _ _ _ => h

end Deeds

section Vacating

variable {policy : Policy} {session : Session}

/-- Who empties the first list may go on to the second one. -/
theorem IsOrderly.vacateBase (h : session.IsOrderly policy)
    (hf : session.baseQueue.holder = none) (hs : session.IsShut) (ticket : Nat)
    (wasOpen : Bool) : (session.vacate .base ticket wasOpen).IsOrderly policy := by
  have hshut : (session.vacate .base ticket wasOpen).IsShut := ⟨hs.disconnected, hs.shut⟩
  have hbase : (session.vacate .base ticket wasOpen).IsVacated .base := ⟨hf, rfl⟩
  refine ⟨h.setting, h.rest, fun list => ?_, fun other count hm => ?_⟩
  · cases list with
    | base => exact fun _ _ _ => hshut
    | core => exact fun _ _ _ => ⟨hshut, hbase⟩
  · have hclosed := h.done other count hm
    have hcore := hclosed.vacated .core
    exact ⟨hshut, fun list => by cases list with
      | base => exact hbase
      | core => exact ⟨hcore.free, hcore.unknown⟩, hclosed.ended⟩

/-- Who empties the second list is done. -/
theorem IsOrderly.isClosed_endJobs (h : session.IsOrderly policy)
    (hf : session.coreQueue.holder = none) (hm : session.MayEmpty .core) (wasOpen : Bool) :
    (endJobs { session with names := { session.names with core := none } } wasOpen).1.IsClosed where
  shut := ⟨hm.1.disconnected, hm.1.shut⟩
  vacated := fun list => by cases list with
    | base => exact ⟨hm.2.free, hm.2.unknown⟩
    | core => exact ⟨hf, rfl⟩
  ended := by
    have hrest : session.router.roster.IsAtRest session.settings.onClose := h.setting ▸ h.rest
    exact Router.roster_perform_endAll hrest

/-- Emptying a free list keeps the order, and leaves the list as one that may be emptied again.
-/
theorem IsOrderly.vacate (h : session.IsOrderly policy) {list : NameList}
    (hf : (session.queueOf list).holder = none) (hm : session.MayEmpty list) (ticket : Nat)
    (wasOpen : Bool) :
    (session.vacate list ticket wasOpen).IsOrderly policy ∧
      (session.vacate list ticket wasOpen).MayEmpty list := by
  cases list with
  | base => exact ⟨h.vacateBase hf hm ticket wasOpen, hm.disconnected, hm.shut⟩
  | core =>
    have hclosed := h.isClosed_endJobs hf hm wasOpen
    have hsettled : (session.vacate .core ticket wasOpen).IsOrderly policy :=
      (hclosed.isOrderly h.setting).settle ticket fun _ _ => hclosed
    exact ⟨hsettled, (hsettled.done ticket _ List.mem_cons_self).mayEmpty .core⟩

/-- Emptying a list changes none of the lines but the next one. -/
theorem queueOf_vacate (session : Session) {list other : NameList}
    (h : list = .base → other = .base) (ticket : Nat) (wasOpen : Bool) :
    (session.vacate list ticket wasOpen).queueOf other = session.queueOf other := by
  cases list with
  | base =>
    rw [h rfl]
    rfl
  | core => cases other <;> rfl

/-- So does serving a line of claims. -/
theorem queueOf_serve (session : Session) {list other : NameList}
    (h : list = .base → other = .base) (claims : List Claim) :
    (serve list claims session).1.queueOf other = session.queueOf other := by
  induction claims generalizing session with
  | nil => rfl
  | cons claim rest ih =>
    cases claim with
    | close ticket wasOpen => exact (ih _).trans (queueOf_vacate session h ticket wasOpen)
    | names ticket =>
      have hcall := queueOf_congr
        (standing_call session .root (session.settings.question list) session.inquiry) other
      rw [serve]
      split
      · exact (ih _).trans (queueOf_settle session other ticket _)
      · split
        · next after sent waiter hc =>
          rw [hc] at hcall
          exact hcall
        · next after error hc =>
          rw [hc] at hcall
          exact ((ih _).trans (queueOf_settle after other ticket _)).trans hcall

/-- The line of a free list is served, and what remains of it is the line. -/
theorem serveList_eq (list : NameList) (session : Session) :
    serveList list session
      = (serve list (session.queueOf list).line (session.setQueue list ⟨none, []⟩)).1.setQueue
          list (serve list (session.queueOf list).line (session.setQueue list ⟨none, []⟩)).2 := by
  have hfree : (serve list (session.queueOf list).line
      (session.setQueue list ⟨none, []⟩)).1.queueOf list = ⟨none, []⟩ :=
    (queueOf_serve (session.setQueue list ⟨none, []⟩) id _).trans
      (queueOf_setQueue_self session list _)
  unfold serveList
  dsimp only
  rw [hfree, List.append_nil]

/-- What serving a free list comes to. -/
structure IsServedIn (policy : Policy) (list : NameList) (after : Session) (queue : Queue) :
    Prop where
  /-- The order is kept. -/
  orderly : after.IsOrderly policy
  /-- Whoever still stands in the line may. -/
  admitted : after.Admits list queue.line
  /-- Only a query keeps anybody waiting. -/
  served : queue.holder = none → queue.line = []
  /-- A query is sent only while the session is connected. -/
  sent : queue.holder = none ∨ after.connected = true

/-- Serving a line keeps the order, and what is left of the line may stand there. -/
theorem IsOrderly.serve (h : session.IsOrderly policy) {list : NameList} {claims : List Claim}
    (hf : (session.queueOf list).holder = none) (ha : session.Admits list claims) :
    IsServedIn policy list (serve list claims session).1 (serve list claims session).2 := by
  induction claims generalizing session with
  | nil => exact ⟨h, ha, fun _ => rfl, .inl rfl⟩
  | cons claim rest ih =>
    have hrest : session.Admits list rest :=
      fun ticket wasOpen hm => ha ticket wasOpen (List.mem_cons_of_mem _ hm)
    cases claim with
    | close ticket wasOpen =>
      obtain ⟨hvacated, hmay⟩ :=
        h.vacate hf (ha ticket wasOpen List.mem_cons_self) ticket wasOpen
      refine ih hvacated ?_ fun _ _ _ => hmay
      rw [queueOf_vacate session id]
      exact hf
    | names ticket =>
      -- A caller who gets an answer at once leaves the list free for the next one.
      have hnext {now : Session} (ho : now.IsOrderly policy)
          (hs : now.standing = session.standing)
          (result : Except SessionError (List String)) :
          IsServedIn policy list
            (Session.serve list rest (now.settle ticket (.names result))).1
            (Session.serve list rest (now.settle ticket (.names result))).2 := by
        have hfree : ((now.settle ticket (.names result)).queueOf list).holder = none := by
          rw [queueOf_settle, queueOf_congr hs]
          exact hf
        exact ih (ho.settleNames ticket result) hfree fun other wasOpen hm =>
          ((hrest.congr hs) other wasOpen hm).settle ticket _
      have hpassive : session.inquiry.EndsQuietly policy :=
        JobOf.IsPassive.endsQuietly ⟨rfl, rfl⟩ policy
      have hcall := h.call .root (session.settings.question list) hpassive
      have hstanding :=
        standing_call session .root (session.settings.question list) session.inquiry
      rw [Session.serve]
      split
      · next names _ => exact hnext h rfl (.ok names)
      · split
        · next after sent waiter hc =>
          rw [hc] at hcall hstanding
          refine ⟨hcall, hrest.congr hstanding, fun he => absurd he (by simp), .inr ?_⟩
          exact (congrArg Standing.connected hstanding).trans (connected_of_call hc)
        · next after error hc =>
          rw [hc] at hcall hstanding
          exact hnext hcall hstanding (.error error)

/-- When the line of a free list is served, only a query keeps anybody waiting. -/
theorem IsOrderly.serveList (h : session.IsOrderly policy) (list : NameList) :
    (Session.serveList list session).IsOrderly policy ∧
      (Session.serveList list session).IsServed list := by
  let idle := session.setQueue list ⟨none, []⟩
  have hidle : idle.IsOrderly policy :=
    h.setQueue (fun _ _ hm => absurd hm List.not_mem_nil) fun _ => .inl rfl
  have hqueue : idle.queueOf list = ⟨none, []⟩ := queueOf_setQueue_self session list _
  have hadmitted : idle.Admits list (session.queueOf list).line :=
    fun ticket wasOpen hm => (h.admitted list ticket wasOpen hm).setQueue _
  have hserved := hidle.serve (by rw [hqueue]) hadmitted
  rw [serveList_eq]
  refine ⟨hserved.orderly.setQueue hserved.admitted fun _ => hserved.sent, fun hh => ?_⟩
  rw [queueOf_setQueue_self] at hh ⊢
  exact hserved.served hh

/-- Serving the second list leaves the line of the first one alone. -/
theorem baseQueue_serveList (session : Session) :
    (serveList .core session).baseQueue = session.baseQueue :=
  @queueOf_serve (session.setQueue .core ⟨none, []⟩) .core .base (fun _ => rfl) _

/-- A list is filled only while a query is in flight, so it has not been emptied for
good. -/
theorem IsOrderly.fill (h : session.IsOrderly policy) {list : NameList} {query : Query}
    (hq : (session.queueOf list).holder = some query) (names : List String) :
    { session with names := session.names.fill list names }.IsOrderly policy := by
  have hbusy : ¬session.IsVacated list := fun hv => absurd (hq.symm.trans hv.free) (by simp)
  refine ⟨h.setting, h.rest, fun other ticket wasOpen hm => ?_, fun ticket count hm =>
    absurd ((h.done ticket count hm).vacated list) hbusy⟩
  cases other with
  | base =>
    have hmay := h.admitted .base ticket wasOpen hm
    exact ⟨hmay.disconnected, hmay.shut⟩
  | core =>
    have hmay := h.admitted .core ticket wasOpen hm
    cases list with
    | base => exact absurd hmay.2 hbusy
    | core => exact ⟨⟨hmay.1.disconnected, hmay.1.shut⟩, hmay.2.free, hmay.2.unknown⟩

/-- When a query ends, its caller has names or not, and the others are served. -/
theorem IsOrderly.endQuery (h : session.IsOrderly policy) {list : NameList} {query : Query}
    (hq : (session.queueOf list).holder = some query) :
    (session.endQuery list query).IsOrderly policy ∧
      (session.endQuery list query).IsServed list := by
  unfold Session.endQuery
  dsimp only
  split
  · next names _ => exact ((h.fill hq names).settleNames query.ticket _).serveList list
  · exact (h.settleNames query.ticket _).serveList list

/-- Going on with a list keeps the order, and nobody stands in its line in vain. -/
theorem IsOrderly.resumeList (h : session.IsOrderly policy) (list : NameList) :
    (Session.resumeList list session).IsOrderly policy ∧
      (Session.resumeList list session).IsServed list := by
  unfold Session.resumeList
  split
  · exact h.serveList list
  · next query hq =>
    split
    · exact h.endQuery hq
    · exact ⟨h, fun hn => absurd (hq.symm.trans hn) (by simp)⟩

/-- Going on with the second list leaves the queue of the first one alone. -/
theorem baseQueue_resumeList (session : Session) :
    (resumeList .core session).baseQueue = session.baseQueue := by
  unfold resumeList
  split
  · exact baseQueue_serveList session
  · split
    · exact baseQueue_serveList _
    · rfl

end Vacating

section Tidy

/-- Closing goes in order, and nobody stands in line for a free list. -/
structure IsTidy (policy : Policy) (session : Session) : Prop where
  /-- Closing goes in order. -/
  orderly : session.IsOrderly policy
  /-- Both lines are served. -/
  served : ∀ list, session.IsServed list

variable {policy : Policy} {session : Session}

/-- Whoever can be served is served when both lists have gone on. -/
theorem IsOrderly.resume (h : session.IsOrderly policy) : session.resume.IsTidy policy := by
  obtain ⟨hbase, hfirst⟩ := h.resumeList .base
  obtain ⟨hcore, hsecond⟩ := hbase.resumeList .core
  refine ⟨hcore, fun list => ?_⟩
  cases list with
  | base =>
    have hkept := baseQueue_resumeList (Session.resumeList .base session)
    intro hn
    have hfree : (Session.resumeList .base session).baseQueue.holder = none := hkept ▸ hn
    exact (congrArg Queue.line hkept).trans (hfirst hfree)
  | core => exact hsecond

/-- What keeps the order and leaves the lines alone leaves nobody waiting. -/
theorem IsTidy.congr {after : Session} (h : session.IsTidy policy)
    (hq : ∀ list, after.queueOf list = session.queueOf list) (ho : after.IsOrderly policy) :
    after.IsTidy policy where
  orderly := ho
  served := by
    intro list
    rw [IsServed, hq]
    exact h.served list

/-- Sending a job that ends quietly leaves a session tidy. -/
theorem IsTidy.send (h : session.IsTidy policy) (path : Namespace) (code : String) {job : Job}
    (hq : job.EndsQuietly policy) : (session.send path code job).1.IsTidy policy :=
  h.congr (queueOf_congr (standing_send session path code job)) (h.orderly.send path code hq)

/-- So does a call of such a job. -/
theorem IsTidy.call (h : session.IsTidy policy) (path : Namespace) (code : String) {job : Job}
    (hq : job.EndsQuietly policy) : (session.call path code job).1.IsTidy policy :=
  h.congr (queueOf_congr (standing_call session path code job)) (h.orderly.call path code hq)

/-- Bytes that come in leave a session tidy. -/
theorem IsTidy.receive (h : session.IsTidy policy) (chunk : Bytes) :
    (session.receive chunk).1.IsTidy policy :=
  h.congr (queueOf_congr (standing_receive session chunk)) (h.orderly.receive chunk)

/-- Who comes to stand in a line does not get the list yet. -/
theorem holder_stand (session : Session) (list other : NameList) (claim : Claim) :
    ((session.stand list claim).queueOf other).holder = (session.queueOf other).holder := by
  cases list <;> cases other <;> rfl

/-- One more stands in line, who may. -/
theorem IsOrderly.stand (h : session.IsOrderly policy) {list : NameList} {claim : Claim}
    (hc : ∀ ticket wasOpen, claim = .close ticket wasOpen → session.MayEmpty list) :
    (session.stand list claim).IsOrderly policy := by
  refine h.setQueue (fun ticket wasOpen hm => ?_) fun hn => .inl hn
  rcases List.mem_append.mp hm with hold | hnew
  · exact h.admitted list ticket wasOpen hold
  · exact hc ticket wasOpen (List.mem_singleton.mp hnew).symm

/-- Asking for names leaves a session tidy. -/
theorem IsOrderly.askNames (h : session.IsOrderly policy) (list : NameList) :
    (session.askNames list).1.IsTidy policy := by
  have hnumbered : { session with nextTicket := session.nextTicket + 1 }.IsOrderly policy :=
    h.congr rfl h.rest IsClosed.ended
  refine IsOrderly.resume (hnumbered.stand fun ticket wasOpen he => ?_)
  exact absurd he (by simp)

/-- So does the end of a query's time. -/
theorem IsTidy.expireNames (h : session.IsTidy policy) (list : NameList) :
    (session.expireNames list).IsTidy policy := by
  unfold Session.expireNames
  split
  · next query hq => exact (h.orderly.endQuery hq).1.resume
  · exact h

/-- After the first part of closing, the session is shut for good. -/
theorem IsOrderly.shut (h : session.IsOrderly policy) :
    session.shut.1.IsOrderly policy ∧ session.shut.1.IsShut := by
  refine ⟨?_, rfl, rfl⟩
  by_cases hs : session.IsShut
  · have hstanding : session.shut.1.standing = session.standing := by
      obtain ⟨hconnected, hchannel⟩ := hs
      unfold standing
      rw [hconnected, hchannel]
      rfl
    exact h.congr hstanding h.rest IsClosed.ended
  · exact h.of_not_isShut hs rfl (fun list => by cases list <;> rfl) rfl h.rest

/-- Closing a session in order leaves it tidy. -/
theorem IsOrderly.close (h : session.IsOrderly policy) : session.close.1.IsTidy policy := by
  have hnumbered : { session with nextTicket := session.nextTicket + 1 }.IsOrderly policy :=
    h.congr rfl h.rest IsClosed.ended
  obtain ⟨hordered, hshut⟩ := hnumbered.shut
  have hmay : MayEmpty _ .base := hshut
  exact (hordered.stand fun _ _ _ => hmay).resume

/-- Only a session that is connected notices that the connection is gone. -/
theorem IsTidy.disconnect (h : session.IsTidy policy) (hc : session.connected = true)
    (notice : Notice) :
    { session.note [.notice notice] with connected := false }.IsTidy policy := by
  have hopen : ¬session.IsShut := fun hs => absurd (hc.symm.trans hs.disconnected) (by simp)
  have hqueue (list : NameList) :
      { session.note [.notice notice] with connected := false }.queueOf list
        = session.queueOf list := by
    cases list <;> rfl
  exact h.congr hqueue (h.orderly.of_not_isShut hopen rfl hqueue rfl h.orderly.rest)

/-- That writing fails from now on leaves a session tidy. -/
theorem IsTidy.breakWrites (h : session.IsTidy policy) :
    session.breakWrites.IsTidy policy := by
  unfold Session.breakWrites
  split
  · next hc =>
    have hopen : ¬session.IsShut := fun hs => absurd (hc.symm.trans hs.shut) (by simp)
    have hqueue (list : NameList) :
        { session with channel := .broken }.queueOf list = session.queueOf list := by
      cases list <;> rfl
    exact h.congr hqueue (h.orderly.of_not_isShut hopen rfl hqueue rfl h.orderly.rest)
  · exact h

/-- What changes nothing but files, and what is known of them, leaves all of it alone. -/
theorem IsTidy.withFiles (h : session.IsTidy policy) (files : Files) (canSpill : Bool) :
    { session with canSpill, router := { session.router with files } }.IsTidy policy := by
  have hsame : standing { session with canSpill, router := { session.router with files } }
      = session.standing := rfl
  exact h.congr (queueOf_congr hsame) (h.orderly.congr hsame h.orderly.rest IsClosed.ended)

end Tidy

section Runs

/-- If a job is sent, nothing is registered on the way when it is ended under the
policy. -/
def Move.EndsQuietly (policy : Policy) : Move → Prop
  | .send _ _ job => job.EndsQuietly policy
  | .call _ _ job => job.EndsQuietly policy
  | _ => True

variable {policy : Policy} {session : Session}

/-- Deleting a file is about the files of the router and nothing else. -/
theorem deleteFile_eq (session : Session) (path : String) :
    session.deleteFile path
      = ({ session with
            router := { session.router with files := session.router.files.delete path } },
          session.router.files.isFile path) := by
  simp [deleteFile, Router.perform, Router.performWithin]

/-- Every move keeps the session tidy. -/
theorem IsTidy.act (h : session.IsTidy policy) {move : Move} (hm : move.EndsQuietly policy) :
    (session.act move).IsTidy policy := by
  cases move with
  | send path code job => exact h.send path code hm
  | call path code job => exact h.call path code hm
  | eval path code => exact h.call path code (JobOf.IsPassive.endsQuietly ⟨rfl, rfl⟩ policy)
  | askNames list => exact h.orderly.askNames list
  | expireNames list => exact h.expireNames list
  | receive chunk => exact h.receive chunk
  | resume => exact h.orderly.resume
  | feed chunk => exact (h.orderly.receive chunk).resume
  | hangUp =>
    unfold Session.act hangUp
    dsimp only
    split
    · next hc => exact h.disconnect hc _
    · exact h
  | readFails cause =>
    unfold Session.act readFails
    dsimp only
    split
    · next hc => exact h.disconnect hc _
    · exact h
  | breakWrites => exact h.breakWrites
  | close => exact h.orderly.close
  | allowSpills canSpill => exact h.withFiles session.router.files canSpill
  | place attachment =>
    exact h.withFiles (session.router.files.lay attachment) session.canSpill
  | deleteFile path =>
    rw [Session.act, deleteFile_eq]
    exact h.withFiles (session.router.files.delete path) session.canSpill

/-- So does every run. -/
theorem IsTidy.run (h : session.IsTidy policy) {moves : List Move}
    (hm : ∀ move ∈ moves, move.EndsQuietly policy) : (session.run moves).IsTidy policy := by
  induction moves generalizing session with
  | nil => exact h
  | cons move rest ih =>
    obtain ⟨hfirst, hrest⟩ := List.forall_mem_cons.mp hm
    exact ih (h.act hfirst) hrest

/-- A session starts tidy. -/
theorem isTidy_opened (context address : String) (settings : Settings) (frontEnd : FrontEnd)
    (spillDirectory : String) (draw : Nat → Nat) :
    (opened context address settings frontEnd spillDirectory draw).IsTidy settings.onClose where
  orderly :=
    { setting := rfl
      rest := Roster.isAtRest_empty settings.onClose
      admitted := fun list => by cases list <;> exact fun _ _ hm => absurd hm List.not_mem_nil
      done := fun _ _ hm => absurd hm List.not_mem_nil }
  served := fun list => by cases list <;> exact fun _ => rfl

end Runs

end ReplLink.Session
