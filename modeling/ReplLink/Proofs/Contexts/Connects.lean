import ReplLink.Proofs.Contexts.Owners

/-!
# What a connect does to the others

Many callers may want the session of one context at a time, and each of them may open a
connection before one takes the map. The first one to do so puts its session there. The
others find it connected, leave it alone, get it, and close what they have opened. Only a
session that is not connected is replaced, and who replaces it closes it. So no session is
lost and none is taken away from those who use it, in whatever order calls go on and
whenever interpreters hang up.
-/

namespace ReplLink.Contexts

open ReplLink.Routing

section Definitions

/-- A call is certain to end with an answer, and the sessions that it still answers for are
the last ones of these. -/
structure Stage.IsBound (places : List Nat) (answer : Answer) (stage : Stage) : Prop where
  /-- The answer is certain. -/
  answer : stage.answer? = some (.ok answer)
  /-- It answers for no other sessions. -/
  places : stage.places <:+ places

/-- A call may fail, or has done so. -/
def Stage.MayFail : Stage → Prop
  | .opening _ _ => True
  | .failed _ => True
  | _ => False

/-- How many stages a call has to go through at most. -/
def Stage.stagesLeft : Stage → Nat
  | .opening _ _ => 5
  | .opened _ _ => 4
  | .closing places _ => 2 * places.length + 1
  | .awaiting _ _ places _ => 2 * places.length + 2
  | .ended _ => 0
  | .failed _ => 0

/-- A call by its number is bound. -/
def Traffic.Binds (traffic : Traffic) (number : Nat) (places : List Nat) (answer : Answer) :
    Prop :=
  ∃ stage, traffic.calls[number]? = some stage ∧ stage.IsBound places answer

/-- A connect begins, or a call of any kind goes on. -/
def Step.IsOfCall : Step → Prop
  | .calls (.connect _ _) => True
  | .proceeds _ _ => True
  | _ => False

/-- How the sessions of an editor stand at any time, and what a connect may do to them. -/
structure Traffic.ServesContexts (now : Traffic) : Prop where
  /-- Each context is in the map once at most, -/
  single : now.contexts.current.keys.Nodup
  /-- with a session of its own. -/
  own : ∀ context place, now.contexts.get context = some place →
    now.contexts.IsAt place (·.context = context)
  /-- When no call is in progress, every session that was ever opened is the one of its context,
  or it has been closed and nothing is outstanding. -/
  atRest : now.IsQuiet → ∀ place session, now.contexts.session? place = some session →
    now.contexts.get session.context = some place ∨ session.HasStopped ∧ session.inFlight = 0
  /-- Neither a connect nor any other call that goes on replaces or touches the session of a
  context that is connected. -/
  spared : ∀ step : Step, step.IsOfCall → ∀ context place,
    now.contexts.connected? context = some place →
      (now.take step).contexts.get context = some place ∧
        (now.take step).contexts.session? place = now.contexts.session? place
  /-- A call that goes on touches only sessions that it answers for. -/
  touches : ∀ number stage listens place session, now.calls[number]? = some stage →
    now.contexts.session? place = some session → place ∉ stage.places →
      (now.take (.proceeds number listens)).contexts.session? place = some session
  /-- Unless a call has ended or waits until a session is closed, it comes nearer to its end
  when it goes on. -/
  goesOn : ∀ number stage listens, now.calls[number]? = some stage →
    now.contexts.Rests stage ∨
      ∃ next, (now.take (.proceeds number listens)).calls[number]? = some next ∧
        next.stagesLeft < stage.stagesLeft
  /-- What a connect opens is a new session for its context. -/
  opens : ∀ number context settings listens other place,
    now.calls[number]? = some (.opening context settings) →
    (now.take (.proceeds number listens)).calls[number]? = some (.opened other place) →
      other = context ∧ now.contexts.session? place = none ∧
        (now.take (.proceeds number listens)).contexts.IsAt place (·.context = context)
  /-- A connect that finds the context connected when it takes the map leaves the map alone.
  From then on it is certain that it ends with that session, and it answers only for the one
  that it has opened. -/
  yields : ∀ number context place winner listens,
    now.calls[number]? = some (.opened context place) →
    now.contexts.connected? context = some winner →
      winner ≠ place ∧ (now.take (.proceeds number listens)).contexts = now.contexts ∧
        ∀ later, ((now.take (.proceeds number listens)).run later).Binds number [place]
          (.session winner)
  /-- Otherwise its own session is put into the map, and it answers for the one that was there,
  if there was any. -/
  replaces : ∀ number context place listens,
    now.calls[number]? = some (.opened context place) →
    now.contexts.connected? context = none →
      (now.take (.proceeds number listens)).contexts
          = { now.contexts with current := now.contexts.current.put context place } ∧
        ∀ later, ((now.take (.proceeds number listens)).run later).Binds number
          (now.contexts.get context).toList (.session place)
  /-- A connect that begins changes nothing, -/
  begins : ∀ context settings,
    (now.take (.calls (.connect context settings))).contexts = now.contexts
  /-- and one that fails in the end changes nothing when it goes on either. -/
  fails : ∀ number listens later why,
    ((now.take (.proceeds number listens)).run later).calls[number]? = some (.failed why) →
      (now.take (.proceeds number listens)).contexts = now.contexts

end Definitions

section Advance

variable {contexts after : Contexts} {stage next : Stage}

theorem Stage.isBound_closing (places : List Nat) (answer : Answer) :
    (Stage.closing places answer).IsBound places answer :=
  ⟨rfl, List.suffix_refl places⟩

/-- What is certain stays so, and no more sessions come in. -/
theorem Stage.IsBound.advances {places : List Nat} {answer : Answer}
    (hb : stage.IsBound places answer) (h : contexts.Advances stage after next) :
    next.IsBound places answer := by
  cases h with
  | stays => exact hb
  | fails | opens | yields | replaces => exact absurd hb.answer (by simp [Stage.answer?])
  | ends => exact ⟨hb.answer, List.nil_suffix⟩
  | closes => exact ⟨hb.answer, hb.places⟩
  | releases => exact ⟨hb.answer, (List.suffix_cons _ _).trans hb.places⟩

/-- What may have failed could fail before, and it has changed nothing. -/
theorem Advances.eq_of_mayFail (h : contexts.Advances stage after next) (hn : next.MayFail) :
    stage.MayFail ∧ after = contexts := by
  cases h with
  | stays => exact ⟨hn, rfl⟩
  | fails => exact ⟨trivial, rfl⟩
  | opens | yields | replaces | ends | closes | releases => exact absurd hn id

/-- What is left of a call gets less, unless nothing happens. -/
theorem Advances.stagesLeft (h : contexts.Advances stage after next) :
    contexts.Rests stage ∨ next.stagesLeft < stage.stagesLeft := by
  cases h with
  | stays hr => exact .inl hr
  | @replaces context place hw =>
    -- At most the session that was there is left to be closed.
    right
    cases contexts.get context <;> simp [Stage.stagesLeft]
  | fails | opens | yields => exact .inr (by simp [Stage.stagesLeft])
  | ends | closes | releases =>
    right
    simp only [Stage.stagesLeft, List.length_cons]
    omega

/-- A call touches no sessions but those that it answers for. -/
theorem Advances.session? (h : contexts.Advances stage after next) {place : Nat}
    {session : Session} (hs : contexts.session? place = some session)
    (hp : place ∉ stage.places) : after.session? place = some session := by
  cases h with
  | opens context settings =>
    have hlt : place < contexts.sessions.length := (List.getElem?_eq_some_iff.mp hs).1
    exact (List.getElem?_append_left hlt).trans hs
  | closes first places answer =>
    have hne : first ≠ place := fun he => hp (he ▸ List.mem_cons_self)
    rw [session?_closeAt, hs, Option.map_some, if_neg hne]
  | stays | fails | yields | replaces | ends | releases => exact hs

/-- What is opened is new. -/
theorem Advances.opened {context other : String} {settings : Settings} {place : Nat}
    (h : contexts.Advances (.opening context settings) after (.opened other place)) :
    other = context ∧ contexts.session? place = none ∧
      after.IsAt place (·.context = context) := by
  cases h with
  | opens =>
    exact ⟨rfl, List.getElem?_eq_none (Nat.le_refl _), _, List.getElem?_concat_length, rfl⟩

/-- A connected session keeps its place in the map. -/
theorem Advances.get (h : contexts.Advances stage after next) {context : String} {place : Nat}
    (hc : contexts.connected? context = some place) : after.get context = some place := by
  have hg : contexts.get context = some place := (Option.filter_eq_some_iff.mp hc).1
  cases h with
  | replaces new hw =>
    refine (Keyed.get?_put_of_ne _ new ?_).trans hg
    rintro rfl
    exact absurd (hw.symm.trans hc) (by simp)
  | stays | fails | opens | yields | ends | closes | releases => exact hg

end Advance

section Calls

variable {traffic : Traffic} {number : Nat} {stage : Stage}

theorem take_proceeds (h : traffic.calls[number]? = some stage) (listens : String → Bool) :
    traffic.take (.proceeds number listens)
      = ⟨(traffic.contexts.advance listens stage).1,
          traffic.calls.set number (traffic.contexts.advance listens stage).2⟩ := by
  unfold Traffic.take
  dsimp only
  rw [h]

/-- A call that goes on has made one step. -/
theorem calls_proceeds (h : traffic.calls[number]? = some stage) (listens : String → Bool) :
    (traffic.take (.proceeds number listens)).calls[number]?
      = some (traffic.contexts.advance listens stage).2 := by
  rw [take_proceeds h]
  exact List.getElem?_set_self (List.getElem?_eq_some_iff.mp h).1

/-- Whatever happens, a call stays where it is or goes on. -/
theorem calls_take (h : traffic.calls[number]? = some stage) (step : Step) :
    ∃ next, (traffic.take step).calls[number]? = some next ∧
      (next = stage ∨ ∃ after, traffic.contexts.Advances stage after next) := by
  cases step with
  | calls call =>
    have hlt : number < traffic.calls.length := (List.getElem?_eq_some_iff.mp h).1
    exact ⟨stage, (List.getElem?_append_left hlt).trans h, .inl rfl⟩
  | proceeds other listens =>
    by_cases ho : other = number
    · rw [ho]
      exact ⟨_, calls_proceeds h listens, .inr ⟨_, traffic.contexts.advances listens stage⟩⟩
    · refine ⟨stage, ?_, .inl rfl⟩
      unfold Traffic.take
      dsimp only
      split
      · exact (List.getElem?_set_ne ho).trans h
      · exact h
  | moves place move => exact ⟨stage, h, .inl rfl⟩
  | hangsUp address => exact ⟨stage, h, .inl rfl⟩

/-- A call that is bound stays so whatever happens. -/
theorem Traffic.Binds.run {places : List Nat} {answer : Answer}
    (h : traffic.Binds number places answer) (steps : List Step) :
    (traffic.run steps).Binds number places answer := by
  induction steps generalizing traffic with
  | nil => exact h
  | cons step rest ih =>
    obtain ⟨stage, hs, hb⟩ := h
    obtain ⟨next, hn, rfl | ⟨after, hadvances⟩⟩ := calls_take hs step
    · exact ih ⟨next, hn, hb⟩
    · exact ih ⟨next, hn, hb.advances hadvances⟩

/-- A call that has failed in the end could fail before. -/
theorem mayFail_of_run (h : traffic.calls[number]? = some stage) {steps : List Step}
    {last : Stage} (hl : (traffic.run steps).calls[number]? = some last) (hf : last.MayFail) :
    stage.MayFail := by
  induction steps generalizing traffic stage with
  | nil =>
    obtain rfl : stage = last := Option.some.inj (h.symm.trans hl)
    exact hf
  | cons step rest ih =>
    obtain ⟨next, hn, rfl | ⟨after, hadvances⟩⟩ := calls_take h step
    · exact ih hn hl
    · exact (hadvances.eq_of_mayFail (ih hn hl)).1

/-- No call answers for a session in the map. -/
theorem Traffic.IsSound.notMem_places (h : traffic.IsSound)
    (hn : traffic.calls[number]? = some stage) {context : String} {place : Nat}
    (hg : traffic.contexts.get context = some place) : place ∉ stage.places := by
  intro hm
  have hfiled : place ∈ traffic.contexts.filed :=
    (filed_erase h.filed hg).mem_iff.mpr List.mem_cons_self
  have hcalls : place ∈ traffic.calls.flatMap Stage.places :=
    List.mem_flatMap.mpr ⟨stage, List.mem_of_getElem? hn, hm⟩
  exact (List.nodup_append.mp h.accounted.once).2.2 place hfiled place hcalls rfl

theorem Traffic.IsSound.own (h : traffic.IsSound) {context : String} {place : Nat}
    (hg : traffic.contexts.get context = some place) :
    traffic.contexts.IsAt place (·.context = context) := by
  have hm := (Keyed.perm_of_get? h.filed.single hg).mem_iff.mpr List.mem_cons_self
  exact h.filed.own (context, place) hm

/-- A connect that begins only looks at the map. -/
theorem contexts_connect (traffic : Traffic) (context : String) (settings : Settings) :
    (traffic.take (.calls (.connect context settings))).contexts = traffic.contexts := by
  have hsame : (traffic.contexts.commence (.connect context settings)).1 = traffic.contexts := by
    cases hw : traffic.contexts.connected? context with
    | some place => rw [commence_of_connected hw]
    | none => rw [commence_of_none hw]
  exact hsame

theorem take_of_none (h : traffic.calls[number]? = none) (listens : String → Bool) :
    traffic.take (.proceeds number listens) = traffic := by
  unfold Traffic.take
  dsimp only
  rw [h]

/-- A connected context keeps its session, in the map and as it is, whatever call begins to
connect or goes on. -/
theorem Traffic.IsSound.spares (h : traffic.IsSound) {step : Step} (hs : step.IsOfCall)
    {context : String} {place : Nat} (hc : traffic.contexts.connected? context = some place) :
    (traffic.take step).contexts.get context = some place ∧
      (traffic.take step).contexts.session? place = traffic.contexts.session? place := by
  have hg : traffic.contexts.get context = some place := (Option.filter_eq_some_iff.mp hc).1
  cases step with
  | calls call =>
    cases call with
    | connect other settings =>
      rw [contexts_connect]
      exact ⟨hg, rfl⟩
    | close other => exact absurd hs id
    | closeAll arrange => exact absurd hs id
  | proceeds number listens =>
    cases hn : traffic.calls[number]? with
    | none =>
      rw [take_of_none hn]
      exact ⟨hg, rfl⟩
    | some stage =>
      have hadvances := traffic.contexts.advances listens stage
      obtain ⟨session, hsession, -⟩ := h.own hg
      rw [take_proceeds hn]
      refine ⟨hadvances.get hc, ?_⟩
      exact (hadvances.session? hsession (h.notMem_places hn hg)).trans hsession.symm
  | moves other move => exact absurd hs id
  | hangsUp address => exact absurd hs id

/-- As long as the sessions are in order, connects serve their contexts. -/
theorem Traffic.IsSound.servesContexts (h : traffic.IsSound) : traffic.ServesContexts where
  single := h.filed.single
  own := fun context place hg => h.own hg
  atRest := by
    intro hq place session hs
    rcases h.atRest hq hs with hg | hstopped
    · exact .inl hg
    · exact .inr ⟨hstopped, hstopped.isInert.vacant⟩
  spared := fun _ hs _ _ hc => h.spares hs hc
  touches := by
    intro number stage listens place session hn hs hp
    rw [take_proceeds hn]
    exact (traffic.contexts.advances listens stage).session? hs hp
  goesOn := by
    intro number stage listens hn
    exact (traffic.contexts.advances listens stage).stagesLeft.imp_right
      fun hless => ⟨_, calls_proceeds hn listens, hless⟩
  opens := by
    intro number context settings listens other place hn ho
    have hnext : (traffic.contexts.advance listens (.opening context settings)).2
        = .opened other place := Option.some.inj ((calls_proceeds hn listens).symm.trans ho)
    have hadvances := traffic.contexts.advances listens (.opening context settings)
    rw [hnext] at hadvances
    rw [take_proceeds hn]
    exact hadvances.opened
  yields := by
    intro number context place winner listens hn hc
    have hg : traffic.contexts.get context = some winner := (Option.filter_eq_some_iff.mp hc).1
    have hne : winner ∉ [place] := h.notMem_places hn hg
    have hcalls := calls_proceeds hn listens
    rw [advance_of_connected hc] at hcalls
    refine ⟨fun he => hne (he ▸ List.mem_singleton_self _), ?_, fun later => ?_⟩
    · rw [take_proceeds hn, advance_of_connected hc]
    · exact Traffic.Binds.run ⟨_, hcalls, Stage.isBound_closing _ _⟩ later
  replaces := by
    intro number context place listens hn hc
    have hcalls := calls_proceeds hn listens
    rw [advance_of_none hc] at hcalls
    refine ⟨?_, fun later => ?_⟩
    · rw [take_proceeds hn, advance_of_none hc]
    · exact Traffic.Binds.run ⟨_, hcalls, Stage.isBound_closing _ _⟩ later
  begins := contexts_connect traffic
  fails := by
    intro number listens later why hf
    cases hn : traffic.calls[number]? with
    | none => rw [take_of_none hn]
    | some stage =>
      have hnext := mayFail_of_run (calls_proceeds hn listens) hf trivial
      rw [take_proceeds hn]
      exact ((traffic.contexts.advances listens stage).eq_of_mayFail hnext).2

end Calls

section Runs

/-- Whatever calls begin, in whatever order they go on, whatever is done with the sessions
meanwhile and whenever interpreters hang up: the sessions of an editor are in order, no
connect takes one away that is connected, and when no call is in progress, none is lost. How
long a call waits until a session is closed is up to those who wait for names there. -/
theorem servesContexts_run {settings : Settings} {frontEnd : FrontEnd} {spillDirectory : String}
    {draw : Nat → Nat → Nat} {start : Traffic}
    (hs : start = .idle settings frontEnd spillDirectory draw) {steps : List Step}
    (ha : start.Allows steps) : (start.run steps).ServesContexts := by
  have hstart : start.IsSound :=
    hs ▸ Traffic.isSound_idle settings frontEnd spillDirectory draw
  exact (hstart.run ha).servesContexts

/-- Nothing has happened yet. -/
def idleStart : Traffic := .idle {} .editor "/tmp" fun place drawn => 0x100 * place + drawn

/-- Two callers want the session of one context, and both open a connection. The second one
takes the map first, so the first one closes what it has opened. Code is sent, the
interpreter hangs up, and a third caller finds nobody to connect to. A fourth one replaces
the session. -/
def crossingCalls : List Step :=
  let connect : Step := .calls (.connect "main" {})
  let proceeds (number : Nat) : Step := .proceeds number fun _ => true
  [connect, connect, proceeds 0, proceeds 1, proceeds 1, proceeds 0, proceeds 1, proceeds 0,
    proceeds 0, proceeds 0, .moves 1 (.eval .root "loop()"), .hangsUp "127.0.0.1:10011", connect,
    .proceeds 2 fun _ => false, connect, proceeds 3, proceeds 3, proceeds 3, proceeds 3, proceeds 3]

/-- The first two callers get the same session, the third one none, and the fourth one the
session that is left in the map. The others have been closed. -/
theorem servesContexts_run_crossingCalls :
    idleStart = .idle {} .editor "/tmp" (fun place drawn => 0x100 * place + drawn) ∧
      idleStart.Allows crossingCalls ∧
      (idleStart.run crossingCalls).calls
        = [.ended (.session 1), .ended (.session 1),
            .failed (.unreachable "127.0.0.1:10011" 5 connectionRefused), .ended (.session 2)] ∧
      (idleStart.run crossingCalls).contexts.current.entries = [("main", 2)] ∧
      ((idleStart.run (crossingCalls.take 12)).contexts.sessions.map (·.inFlight)) = [0, 1] ∧
      ((idleStart.run crossingCalls).contexts.sessions.map (·.inFlight)) = [0, 0, 0] ∧
      (idleStart.run crossingCalls).ServesContexts := by
  have ha : idleStart.Allows crossingCalls :=
    ⟨trivial, trivial, trivial, trivial, trivial, trivial, trivial, trivial, trivial, trivial,
      fun _ _ => trivial, trivial, trivial, trivial, trivial, trivial, trivial, trivial, trivial,
      trivial, trivial⟩
  have hcalls : (idleStart.run crossingCalls).calls
      = [.ended (.session 1), .ended (.session 1),
          .failed (.unreachable "127.0.0.1:10011" 5 connectionRefused), .ended (.session 2)] := by
    decide +kernel
  have hmap : (idleStart.run crossingCalls).contexts.current.entries = [("main", 2)] := by
    decide +kernel
  have hbusy : ((idleStart.run (crossingCalls.take 12)).contexts.sessions.map (·.inFlight))
      = [0, 1] := by
    decide +kernel
  have hdone : ((idleStart.run crossingCalls).contexts.sessions.map (·.inFlight)) = [0, 0, 0] := by
    decide +kernel
  exact ⟨rfl, ha, hcalls, hmap, hbusy, hdone, servesContexts_run rfl ha⟩

end Runs

end ReplLink.Contexts
