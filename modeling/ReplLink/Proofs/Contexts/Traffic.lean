import ReplLink.Contexts
import ReplLink.Proofs.Session.Alone
import ReplLink.Proofs.Session.Origin

/-!
# Calls that overlap

Who asks for the session of a context has to wait while a connection is opened, and who
closes one has to wait until that is done. The map of the sessions is free meanwhile, so
calls overlap: each of them goes on by stages, and between two stages others go on, callers
use their sessions and interpreters hang up. A call that is alone comes to what the
functions on the contexts do at once.
-/

namespace ReplLink.Contexts

open ReplLink.Routing

section Definitions

/-- What a caller gets in the end. -/
inductive Answer where
  /-- The session at a place. -/
  | session (place : Nat)
  /-- Whether the context had a session, which is closed. -/
  | closed (was : Bool)
  /-- All sessions are closed. -/
  | allClosed
  deriving DecidableEq, Repr

/-- How far a call has come. -/
inductive Stage where
  /-- The context has no connected session, and a connection is being opened. -/
  | opening (context : String) (settings : Settings)
  /-- The session at a place has been opened, and the map is to be taken. -/
  | opened (context : String) (place : Nat)
  /-- Sessions are to be closed, one after the other. -/
  | closing (places : List Nat) (answer : Answer)
  /-- One is being closed, and then the others are to be closed. -/
  | awaiting (place ticket : Nat) (places : List Nat) (answer : Answer)
  /-- The call is over. -/
  | ended (answer : Answer)
  /-- No connection could be opened. -/
  | failed (why : SessionError)
  deriving DecidableEq, Repr

/-- What the caller will get, once that is certain. -/
def Stage.answer? : Stage → Option (Except SessionError Answer)
  | .opening _ _ => none
  | .opened _ _ => none
  | .closing _ answer => some (.ok answer)
  | .awaiting _ _ _ answer => some (.ok answer)
  | .ended answer => some (.ok answer)
  | .failed why => some (.error why)

/-- The call has ended. -/
def Stage.HasEnded : Stage → Prop
  | .ended _ => True
  | .failed _ => True
  | _ => False

/-- A call. -/
inductive Call where
  /-- The session of a context is wanted. -/
  | connect (context : String) (settings : Settings)
  /-- The session of a context is to be closed. -/
  | close (context : String)
  /-- All sessions are to be closed, in the order that is given. -/
  | closeAll (arrange : List Nat → List Nat)

/-- The number of who closes the session at a place next. -/
def ticketAt (contexts : Contexts) (place : Nat) : Nat :=
  ((contexts.session? place).map (·.close.2)).getD 0

/-- Who closes the session at a place is done. -/
def isDone (contexts : Contexts) (place ticket : Nat) : Bool :=
  (contexts.session? place).any fun session => (session.endedBy ticket).isSome

/-- A call begins. -/
def commence (contexts : Contexts) : Call → Contexts × Stage
  | .connect context settings =>
    match contexts.connected? context with
    | some place => (contexts, .ended (.session place))
    | none => (contexts, .opening context settings)
  | .close context =>
    match contexts.get context with
    | some place =>
      ({ contexts with current := contexts.current.erase context },
        .closing [place] (.closed true))
    | none => (contexts, .ended (.closed false))
  | .closeAll arrange =>
    ({ contexts with current := .empty },
      .closing (arrange (contexts.current.entries.map (·.2))) .allClosed)

/-- A call goes on from a stage to the next one, if it can. Something listens at some of the
addresses. -/
def advance (contexts : Contexts) (listens : String → Bool) : Stage → Contexts × Stage
  | .opening context settings =>
    match contexts.openSession listens context settings with
    | .ok (opened, place) => (opened, .opened context place)
    | .error why => (contexts, .failed why)
  | .opened context place =>
    match contexts.connected? context with
    | some winner => (contexts, .closing [place] (.session winner))
    | none =>
      ({ contexts with current := contexts.current.put context place },
        .closing (contexts.get context).toList (.session place))
  | .closing [] answer => (contexts, .ended answer)
  | .closing (place :: places) answer =>
    (contexts.closeAt place, .awaiting place (contexts.ticketAt place) places answer)
  | .awaiting place ticket places answer =>
    if contexts.isDone place ticket then (contexts, .closing places answer)
    else (contexts, .awaiting place ticket places answer)
  | .ended answer => (contexts, .ended answer)
  | .failed why => (contexts, .failed why)

/-- A call goes on for some stages, and nothing else happens. -/
def follow (listens : String → Bool) : Nat → Contexts × Stage → Contexts × Stage
  | 0, state => state
  | stages + 1, (contexts, stage) => follow listens stages (contexts.advance listens stage)

/-- Something is done with the session at a place. -/
def moveAt (contexts : Contexts) (place : Nat) (move : Session.Move) : Contexts :=
  { contexts with sessions := contexts.sessions.modify place (·.act move) }

/-- A call has ended, or it waits until a session is closed. -/
def Rests (contexts : Contexts) : Stage → Prop
  | .awaiting place ticket _ _ => contexts.isDone place ticket = false
  | .ended _ => True
  | .failed _ => True
  | _ => False

/-- What a call does when it goes on. -/
inductive Advances (contexts : Contexts) : Stage → Contexts → Stage → Prop
  /-- It cannot go on, and nothing happens. -/
  | stays {stage : Stage} (h : contexts.Rests stage) : Advances contexts stage contexts stage
  /-- No connection can be opened. -/
  | fails (context : String) (settings : Settings) (why : SessionError) :
    Advances contexts (.opening context settings) contexts (.failed why)
  /-- A connection is opened. -/
  | opens (context : String) (settings : Settings) :
    Advances contexts (.opening context settings)
      { contexts with
        sessions := contexts.sessions ++ [.opened context settings.address settings
          contexts.frontEnd contexts.spillDirectory (contexts.draw contexts.sessions.length)] }
      (.opened context contexts.sessions.length)
  /-- Another caller was faster. -/
  | yields {context : String} (place : Nat) {winner : Nat}
    (h : contexts.connected? context = some winner) :
    Advances contexts (.opened context place) contexts (.closing [place] (.session winner))
  /-- The session that was opened is put into the map. -/
  | replaces {context : String} (place : Nat) (h : contexts.connected? context = none) :
    Advances contexts (.opened context place)
      { contexts with current := contexts.current.put context place }
      (.closing (contexts.get context).toList (.session place))
  /-- Nothing is left to be closed. -/
  | ends (answer : Answer) : Advances contexts (.closing [] answer) contexts (.ended answer)
  /-- The next session is being closed. -/
  | closes (place : Nat) (places : List Nat) (answer : Answer) :
    Advances contexts (.closing (place :: places) answer) (contexts.closeAt place)
      (.awaiting place (contexts.ticketAt place) places answer)
  /-- A session is closed. -/
  | releases {place ticket : Nat} (h : contexts.isDone place ticket = true)
    (places : List Nat) (answer : Answer) :
    Advances contexts (.awaiting place ticket places answer) contexts (.closing places answer)

/-- The sessions of an editor, with all calls so far. -/
structure Traffic where
  /-- The sessions. -/
  contexts : Contexts
  /-- How far each call has come, by its number. -/
  calls : List Stage

/-- One thing that happens. -/
inductive Step where
  /-- A call begins. -/
  | calls (call : Call)
  /-- A call goes on. -/
  | proceeds (number : Nat) (listens : String → Bool)
  /-- Something is done with the session at a place. -/
  | moves (place : Nat) (move : Session.Move)
  /-- The interpreter at an address closes all its connections. -/
  | hangsUp (address : String)

/-- The order in which sessions are closed leaves none out, and what runs at the end of a
connection registers no jobs: a session keeps its registry to itself, and sends nothing any
more by then. -/
def Step.IsFair (contexts : Contexts) : Step → Prop
  | .calls (.closeAll arrange) =>
    (arrange (contexts.current.entries.map (·.2))).Perm (contexts.current.entries.map (·.2))
  | .moves place move => ∀ session, contexts.session? place = some session →
    move.EndsQuietly session.settings.onClose
  | _ => True

namespace Traffic

/-- Nothing has happened. -/
def idle (settings : Settings) (frontEnd : FrontEnd) (spillDirectory : String)
    (draw : Nat → Nat → Nat) : Traffic :=
  ⟨.idle settings frontEnd spillDirectory draw, []⟩

/-- Something happens. -/
def take (traffic : Traffic) : Step → Traffic
  | .calls call =>
    let (contexts, stage) := traffic.contexts.commence call
    ⟨contexts, traffic.calls ++ [stage]⟩
  | .proceeds number listens =>
    match traffic.calls[number]? with
    | some stage =>
      let (contexts, stage) := traffic.contexts.advance listens stage
      ⟨contexts, traffic.calls.set number stage⟩
    | none => traffic
  | .moves place move => { traffic with contexts := traffic.contexts.moveAt place move }
  | .hangsUp address => { traffic with contexts := traffic.contexts.hangUp address }

/-- One thing happens after the other. -/
def run (traffic : Traffic) (steps : List Step) : Traffic := steps.foldl take traffic

/-- All that happens is fair when it happens. -/
def Allows : Traffic → List Step → Prop
  | _, [] => True
  | traffic, step :: rest => step.IsFair traffic.contexts ∧ (traffic.take step).Allows rest

/-- No call is in progress. -/
def IsQuiet (traffic : Traffic) : Prop := ∀ stage ∈ traffic.calls, stage.HasEnded

end Traffic

end Definitions

section Alone

variable {contexts opened : Contexts} {listens : String → Bool} {context : String}
  {settings : Settings} {place : Nat}

/-- Who finds a connected session gets it. -/
theorem commence_of_connected (h : contexts.connected? context = some place)
    (settings : Settings) :
    contexts.commence (.connect context settings) = (contexts, .ended (.session place)) := by
  unfold commence
  dsimp only
  rw [h]

theorem commence_of_none (h : contexts.connected? context = none) (settings : Settings) :
    contexts.commence (.connect context settings) = (contexts, .opening context settings) := by
  unfold commence
  dsimp only
  rw [h]

theorem advance_of_error {why : SessionError}
    (h : contexts.openSession listens context settings = .error why) :
    contexts.advance listens (.opening context settings) = (contexts, .failed why) := by
  unfold advance
  dsimp only
  rw [h]

theorem advance_of_open (h : contexts.openSession listens context settings = .ok (opened, place)) :
    contexts.advance listens (.opening context settings) = (opened, .opened context place) := by
  unfold advance
  dsimp only
  rw [h]

/-- Who has opened a session while another caller was faster gets that caller's. -/
theorem advance_of_connected {winner : Nat} (h : contexts.connected? context = some winner)
    (listens : String → Bool) (place : Nat) :
    contexts.advance listens (.opened context place)
      = (contexts, .closing [place] (.session winner)) := by
  unfold advance
  dsimp only
  rw [h]

/-- Otherwise the session takes the place of a dead one. -/
theorem advance_of_none (h : contexts.connected? context = none) (listens : String → Bool)
    (place : Nat) :
    contexts.advance listens (.opened context place)
      = ({ contexts with current := contexts.current.put context place },
          .closing (contexts.get context).toList (.session place)) := by
  unfold advance
  dsimp only
  rw [h]

/-- What is opened is put behind the sessions before. -/
theorem openSession_eq_ok
    (h : contexts.openSession listens context settings = .ok (opened, place)) :
    place = contexts.sessions.length ∧
      opened = { contexts with
        sessions := contexts.sessions ++ [.opened context settings.address settings
          contexts.frontEnd contexts.spillDirectory
            (contexts.draw contexts.sessions.length)] } := by
  unfold openSession Session.connect at h
  dsimp only at h
  split at h
  · exact absurd h (by simp)
  · next session hs =>
    split at hs
    · have hsession := Except.ok.inj hs
      obtain ⟨rfl, rfl⟩ := Prod.mk.inj (Except.ok.inj h)
      exact ⟨rfl, by rw [hsession]⟩
    · exact absurd hs (by simp)

/-- Whenever a call goes on, it does one of these things. -/
theorem advances (contexts : Contexts) (listens : String → Bool) (stage : Stage) :
    contexts.Advances stage (contexts.advance listens stage).1
      (contexts.advance listens stage).2 := by
  cases stage with
  | opening context settings =>
    cases ho : contexts.openSession listens context settings with
    | error why =>
      rw [advance_of_error ho]
      exact .fails context settings why
    | ok result =>
      obtain ⟨opened, place⟩ := result
      rw [advance_of_open ho]
      obtain ⟨rfl, rfl⟩ := openSession_eq_ok ho
      exact .opens context settings
  | opened context place =>
    cases hw : contexts.connected? context with
    | some winner =>
      rw [advance_of_connected hw]
      exact .yields place hw
    | none =>
      rw [advance_of_none hw]
      exact .replaces place hw
  | closing places answer =>
    cases places with
    | nil => exact .ends answer
    | cons place rest => exact .closes place rest answer
  | awaiting place ticket places answer =>
    rw [advance]
    split
    · next hd => exact .releases hd places answer
    · next hd => exact .stays ((Bool.not_eq_true _).mp hd)
  | ended answer => exact .stays trivial
  | failed why => exact .stays trivial

/-- A call for a session that nothing comes between opens a connection, takes the map and
begins to close what is left over, as far as that is needed. -/
theorem connectAs_eq_follow (contexts : Contexts) (listens : String → Bool) (context : String)
    (settings : Settings) :
    ∃ stage, follow listens 3 (contexts.commence (.connect context settings))
        = ((contexts.connectAs listens context settings).1, stage) ∧
      stage.answer? = some ((contexts.connectAs listens context settings).2.map .session) := by
  unfold connectAs
  cases hc : contexts.connected? context with
  | some place =>
    rw [commence_of_connected hc]
    exact ⟨_, rfl, rfl⟩
  | none =>
    rw [commence_of_none hc, follow]
    cases ho : contexts.openSession listens context settings with
    | error why =>
      rw [advance_of_error ho]
      exact ⟨_, rfl, rfl⟩
    | ok result =>
      obtain ⟨opened, place⟩ := result
      rw [advance_of_open ho, follow]
      dsimp only
      unfold install
      cases hw : opened.connected? context with
      | some winner =>
        rw [advance_of_connected hw]
        exact ⟨_, rfl, rfl⟩
      | none =>
        rw [advance_of_none hw]
        cases opened.get context with
        | some dead => exact ⟨_, rfl, rfl⟩
        | none => exact ⟨_, rfl, rfl⟩

/-- A call that closes the session of a context forgets it and begins to close it. -/
theorem close_eq_follow (contexts : Contexts) (listens : String → Bool) (context : String) :
    ∃ stage, follow listens 1 (contexts.commence (.close context))
        = ((contexts.close context).1, stage) ∧
      stage.answer? = some (.ok (.closed (contexts.close context).2)) := by
  unfold close commence
  dsimp only
  cases contexts.get context with
  | some place => exact ⟨_, rfl, rfl⟩
  | none => exact ⟨_, rfl, rfl⟩

theorem session?_closeAt (contexts : Contexts) (place other : Nat) :
    (contexts.closeAt place).session? other
      = (contexts.session? other).map fun session =>
          if place = other then session.close.1 else session :=
  List.getElem?_modify _ _ _ _

/-- Where nobody waits for names, sessions are closed one after the other without a halt. -/
theorem follow_closing (listens : String → Bool) (answer : Answer) {places : List Nat}
    (hi : ∀ place session, contexts.session? place = some session → session.IsIdle)
    (hp : ∀ place ∈ places, ∃ session, contexts.session? place = some session) :
    follow listens (2 * places.length + 1) (contexts, .closing places answer)
      = (places.foldl closeAt contexts, .ended answer) := by
  induction places generalizing contexts with
  | nil => rfl
  | cons place rest ih =>
    obtain ⟨⟨session, hs⟩, hrest⟩ := List.forall_mem_cons.mp hp
    have hlength : 2 * (place :: rest).length + 1 = 2 * rest.length + 1 + 1 + 1 := by
      rw [List.length_cons]
      omega
    have hclosed : (contexts.closeAt place).session? place = some session.close.1 := by
      rw [session?_closeAt, hs, Option.map_some, if_pos rfl]
    have hticket : contexts.ticketAt place = session.close.2 := by
      rw [ticketAt, hs]
      rfl
    have hdone : (contexts.closeAt place).isDone place (contexts.ticketAt place) = true := by
      rw [isDone, hclosed, hticket]
      exact Session.endedBy_close (hi place session hs)
    have hwaits : (contexts.closeAt place).advance listens
        (.awaiting place (contexts.ticketAt place) rest answer)
          = (contexts.closeAt place, .closing rest answer) := by
      rw [advance, if_pos hdone]
    rw [hlength, follow, advance, follow, hwaits, List.foldl_cons]
    refine ih (fun other after ha => ?_) fun other ho => ?_
    · rw [session?_closeAt] at ha
      obtain ⟨before, hb, rfl⟩ := Option.map_eq_some_iff.mp ha
      split
      · exact (hi other before hb).close
      · exact hi other before hb
    · obtain ⟨before, hb⟩ := hrest other ho
      exact ⟨_, by rw [session?_closeAt, hb]; rfl⟩

/-- A call that closes all sessions comes to the same as closing them at once. -/
theorem closeAll_eq_follow (listens : String → Bool)
    (hi : ∀ place session, contexts.session? place = some session → session.IsIdle)
    (hp : ∀ entry ∈ contexts.current.entries,
      ∃ session, contexts.session? entry.2 = some session) :
    follow listens (2 * contexts.size + 1) (contexts.commence (.closeAll id))
      = (contexts.closeAll, .ended .allClosed) := by
  have hlength : contexts.size = (contexts.current.entries.map (·.2)).length :=
    (List.length_map _).symm
  have hall : contexts.closeAll
      = (contexts.current.entries.map (·.2)).foldl closeAt { contexts with current := .empty } :=
    List.foldl_map.symm
  rw [hlength, hall]
  refine follow_closing listens .allClosed hi fun place hm => ?_
  obtain ⟨entry, he, rfl⟩ := List.mem_map.mp hm
  exact hp entry he

end Alone

end ReplLink.Contexts
