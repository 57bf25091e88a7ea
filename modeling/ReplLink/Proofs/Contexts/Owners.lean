import Mathlib.Data.List.Perm.Basic
import ReplLink.Proofs.Contexts.Traffic
import ReplLink.Proofs.Routing.Roster

/-!
# Who answers for a session

Every session that was opened is in one hand: it is the one of its context in the map, or a
call in progress answers for it. A call hands it over to the map, takes another one out of
the map, or lets go of it when it is closed, and nobody else touches it meanwhile. So
whatever is in nobody's hand has stopped.
-/

namespace ReplLink

open ReplLink.Routing

section Later

variable {before after : Session}

/-- What a session is later. -/
structure Session.Becomes (before after : Session) : Prop where
  /-- It is for the same context. -/
  context : after.context = before.context
  /-- It stays tidy, -/
  upright : before.IsUpright → after.IsUpright
  /-- and it does not start again. -/
  stopped : before.HasStopped → after.HasStopped

/-- A session to which nothing has happened is what it was. -/
theorem Session.becomes_refl (session : Session) : session.Becomes session :=
  ⟨rfl, id, id⟩

/-- A move that ends its job quietly leaves a session of the same context, tidy and stopped if
it was. -/
theorem Session.becomes_act {session : Session} (move : Move)
    (hm : move.EndsQuietly session.settings.onClose) : session.Becomes (session.act move) :=
  ⟨session.context_act move, fun h => h.act hm, fun h => h.act move⟩

end Later

namespace Contexts

section Definitions

/-- There is a session at a place, and it is like that. -/
def IsAt (contexts : Contexts) (place : Nat) (like : Session → Prop) : Prop :=
  ∃ session, contexts.session? place = some session ∧ like session

/-- Sessions stay in their places and go on, and new ones come tidy. -/
structure Continues (before after : Contexts) : Prop where
  /-- Each session goes on. -/
  becomes : ∀ place session, before.session? place = some session →
    after.IsAt place session.Becomes
  /-- If they were tidy, all are. -/
  upright : (∀ session ∈ before.sessions, session.IsUpright) →
    ∀ session ∈ after.sessions, session.IsUpright

/-- The places of the sessions in the map. -/
def filed (contexts : Contexts) : List Nat := contexts.current.entries.map (·.2)

/-- The places of the sessions that a call answers for. -/
def Stage.places : Stage → List Nat
  | .opening _ _ => []
  | .opened _ place => [place]
  | .closing places _ => places
  | .awaiting place _ places _ => place :: places
  | .ended _ => []
  | .failed _ => []

/-- Sessions change hands: those at some places were in somebody's hand before, and those at
some others are later. -/
structure Transfers (before after : Contexts) (had has : List Nat) : Prop where
  /-- All of them go on. -/
  continues : Continues before after
  /-- New ones are taken up, and only those are let go that have stopped. -/
  exchanged : ∃ fresh released, (released ++ has).Perm (fresh ++ had) ∧
    fresh = List.range' before.sessions.length fresh.length ∧
    after.sessions.length = before.sessions.length + fresh.length ∧
    ∀ place ∈ released, after.IsAt place Session.HasStopped

/-- Every session that was opened is accounted for. -/
structure IsAccounted (contexts : Contexts) (owned : List Nat) : Prop where
  /-- All sessions are tidy. -/
  upright : ∀ session ∈ contexts.sessions, session.IsUpright
  /-- Each is in one hand at most. -/
  once : owned.Nodup
  /-- What is in somebody's hand has been opened. -/
  opened : ∀ place ∈ owned, place < contexts.sessions.length
  /-- What is in nobody's hand has stopped. -/
  stopped : ∀ place, place < contexts.sessions.length → place ∉ owned →
    contexts.IsAt place Session.HasStopped

/-- The map has one session for each context at most, and it is the context's own. -/
structure IsFiled (contexts : Contexts) : Prop where
  /-- Each context is in the map once. -/
  single : contexts.current.keys.Nodup
  /-- Its session was opened for it. -/
  own : ∀ entry ∈ contexts.current.entries, contexts.IsAt entry.2 (·.context = entry.1)

/-- A call that is about to take the map has a session for its context. -/
def Stage.IsDestined (contexts : Contexts) (stage : Stage) : Prop :=
  ∀ context place, stage = .opened context place → contexts.IsAt place (·.context = context)

/-- The sessions in somebody's hand. -/
def Traffic.owned (traffic : Traffic) : List Nat :=
  traffic.contexts.filed ++ traffic.calls.flatMap Stage.places

/-- The sessions of an editor are in order, whatever calls are in progress. -/
structure Traffic.IsSound (traffic : Traffic) : Prop where
  /-- All sessions are accounted for. -/
  accounted : IsAccounted traffic.contexts traffic.owned
  /-- The map is in order. -/
  filed : IsFiled traffic.contexts
  /-- So are the calls. -/
  destined : ∀ stage ∈ traffic.calls, stage.IsDestined traffic.contexts

end Definitions

section Sessions

variable {contexts before after : Contexts} {place : Nat} {like : Session → Prop}

/-- What a session keeps while it goes on is true of it at its place later. -/
theorem IsAt.continue (h : before.IsAt place like) (hc : Continues before after)
    (hl : ∀ {session later : Session}, session.Becomes later → like session → like later) :
    after.IsAt place like := by
  obtain ⟨session, hs, hlike⟩ := h
  obtain ⟨later, hlater, hgoes⟩ := hc.becomes place session hs
  exact ⟨later, hlater, hl hgoes hlike⟩

/-- A session that has stopped stays so at its place. -/
theorem IsAt.hasStopped (h : before.IsAt place Session.HasStopped) (hc : Continues before after) :
    after.IsAt place Session.HasStopped :=
  h.continue hc fun hg => hg.stopped

/-- A session keeps its context at its place. -/
theorem IsAt.context {context : String} (h : before.IsAt place (·.context = context))
    (hc : Continues before after) : after.IsAt place (·.context = context) :=
  h.continue hc fun hg => hg.context.trans

/-- Where the sessions are the same, all go on. -/
theorem continues_of_eq (h : after.sessions = before.sessions) : Continues before after where
  becomes := by
    intro place session hs
    have hsame : after.session? place = before.session? place := by rw [session?, h, session?]
    exact ⟨session, hsame.trans hs, session.becomes_refl⟩
  upright := by
    rw [h]
    exact id

/-- Where something fair is done with some sessions, all go on. -/
theorem continues_of_map (change : Nat → Session → Session)
    (hs : ∀ place, after.session? place = (before.session? place).map (change place))
    (hg : ∀ place session, before.session? place = some session →
      session.Becomes (change place session)) : Continues before after where
  becomes := fun place session h => ⟨change place session, by rw [hs, h]; rfl, hg place session h⟩
  upright := by
    intro hu later hl
    obtain ⟨place, hplace⟩ := List.mem_iff_getElem?.mp hl
    have hlater : (before.session? place).map (change place) = some later := by
      rw [← hs]
      exact hplace
    obtain ⟨session, hsession, rfl⟩ := Option.map_eq_some_iff.mp hlater
    exact (hg place session hsession).upright (hu session (List.mem_of_getElem? hsession))

/-- A fair move of one session lets all go on. -/
theorem continues_moveAt {move : Session.Move} (h : (Step.moves place move).IsFair contexts) :
    Continues contexts (contexts.moveAt place move) := by
  refine continues_of_map (fun other session => if place = other then session.act move else session)
    ?_ fun other session hs => ?_
  · exact fun other => List.getElem?_modify _ _ _ _
  · split
    · next he => exact Session.becomes_act move (h session (he ▸ hs))
    · exact session.becomes_refl

/-- So does the closing of one session. -/
theorem continues_closeAt (contexts : Contexts) (place : Nat) :
    Continues contexts (contexts.closeAt place) := by
  have hfair : (Step.moves place .close).IsFair contexts := fun _ _ => trivial
  exact continues_moveAt hfair

/-- So does a peer that hangs up on its sessions. -/
theorem continues_hangUp (contexts : Contexts) (address : String) :
    Continues contexts (contexts.hangUp address) := by
  refine continues_of_map (fun _ session =>
    if session.address = address then session.hangUp else session) ?_ fun other session _ => ?_
  · exact fun other => List.getElem?_map
  · split
    · exact Session.becomes_act .hangUp trivial
    · exact session.becomes_refl

/-- So does a tidy session that comes behind the others. -/
theorem continues_concat {session : Session} (h : session.IsUpright)
    (hs : after.sessions = before.sessions ++ [session]) : Continues before after where
  becomes := by
    intro place other ho
    have hlt : place < before.sessions.length := (List.getElem?_eq_some_iff.mp ho).1
    have hsame : after.session? place = before.session? place := by
      rw [session?, hs, List.getElem?_append_left hlt, session?]
    exact ⟨other, hsame.trans ho, other.becomes_refl⟩
  upright := by
    intro hu
    rw [hs]
    exact List.forall_mem_append.mpr ⟨hu, List.forall_mem_singleton.mpr h⟩

end Sessions

section Hands

variable {contexts before after : Contexts} {had has rest : List Nat}

/-- In which order the sessions are in hand has no part in the account. -/
theorem IsAccounted.perm (h : IsAccounted contexts had) (hp : has.Perm had) :
    IsAccounted contexts has where
  upright := h.upright
  once := hp.nodup_iff.mpr h.once
  opened := fun place hm => h.opened place (hp.mem_iff.mp hm)
  stopped := fun place hlt hn => h.stopped place hlt fun hm => hn (hp.mem_iff.mpr hm)

/-- Sessions that change hands stay accounted for. -/
theorem IsAccounted.transfer (h : IsAccounted before (had ++ rest))
    (ht : Transfers before after had has) : IsAccounted after (has ++ rest) := by
  obtain ⟨fresh, released, hperm, hfresh, hlength, hreleased⟩ := ht.exchanged
  have hall : (released ++ (has ++ rest)).Perm (fresh ++ (had ++ rest)) := by
    rw [← List.append_assoc, ← List.append_assoc]
    exact hperm.append_right rest
  have hnew : ∀ place ∈ fresh, before.sessions.length ≤ place ∧ place < after.sessions.length := by
    intro place hm
    rw [hfresh] at hm
    have hrange := List.mem_range'_1.mp hm
    exact ⟨hrange.1, hlength ▸ hrange.2⟩
  have hnodup : (fresh ++ (had ++ rest)).Nodup := by
    refine List.nodup_append.mpr ⟨hfresh ▸ List.nodup_range', h.once, ?_⟩
    intro place hm other ho he
    exact absurd (h.opened other ho) (Nat.not_lt.mpr (he ▸ (hnew place hm).1))
  refine ⟨ht.continues.upright h.upright, ?_, fun place hm => ?_, fun place hlt hn => ?_⟩
  · exact (List.nodup_append.mp (hall.nodup_iff.mpr hnodup)).2.1
  · rcases List.mem_append.mp (hall.mem_iff.mp (List.mem_append_right released hm)) with hm | hm
    · exact (hnew place hm).2
    · exact Nat.lt_of_lt_of_le (h.opened place hm) (hlength ▸ Nat.le_add_right _ _)
  · -- What was in somebody's hand and is in nobody's any more was let go.
    have hgone : place ∈ fresh ++ (had ++ rest) → after.IsAt place Session.HasStopped := by
      intro hm
      rcases List.mem_append.mp (hall.mem_iff.mpr hm) with hm | hm
      · exact hreleased place hm
      · exact absurd hm hn
    by_cases hold : place < before.sessions.length
    · by_cases hm : place ∈ had ++ rest
      · exact hgone (List.mem_append_right fresh hm)
      · exact (h.stopped place hold hm).hasStopped ht.continues
    · refine hgone (List.mem_append_left _ ?_)
      rw [hfresh]
      exact List.mem_range'_1.mpr ⟨Nat.le_of_not_lt hold, hlength ▸ hlt⟩

/-- Nothing new is taken up, and nothing is let go. -/
theorem transfers_of_perm (hc : Continues before after)
    (hl : after.sessions.length = before.sessions.length) (hp : has.Perm had) :
    Transfers before after had has :=
  ⟨hc, [], [], hp, rfl, hl, fun _ hm => absurd hm List.not_mem_nil⟩

/-- A session is taken out of the map. -/
theorem filed_erase (hf : IsFiled contexts) {context : String} {place : Nat}
    (h : contexts.get context = some place) :
    contexts.filed.Perm
      (place :: filed { contexts with current := contexts.current.erase context }) :=
  (Keyed.perm_of_get? hf.single h).map Prod.snd

/-- A session is put into the map, in place of another one or of none. -/
theorem filed_put (hf : IsFiled contexts) (context : String) (place : Nat) :
    (filed { contexts with current := contexts.current.put context place }
      ++ (contexts.get context).toList).Perm (contexts.filed ++ [place]) := by
  have hput : (filed { contexts with current := contexts.current.put context place }).Perm
      (place :: filed { contexts with current := contexts.current.erase context }) :=
    (Keyed.put_perm contexts.current context place).map Prod.snd
  refine (hput.append_right _).trans ?_
  rw [List.cons_append]
  refine List.Perm.trans (List.Perm.cons place ?_) (List.perm_append_singleton place _).symm
  cases hg : contexts.get context with
  | some dead =>
    refine (List.perm_append_singleton dead _).trans ?_
    exact (filed_erase hf hg).symm
  | none =>
    have hsame : contexts.current.erase context = contexts.current :=
      Keyed.erase_of_get?_none hg
    rw [hsame]
    exact List.Perm.of_eq (List.append_nil _)

end Hands

section Map

variable {contexts before after : Contexts} {context : String} {place : Nat}
  {stage next : Stage}

/-- The map stays in order while the sessions go on. -/
theorem IsFiled.continue (h : IsFiled before) (hc : Continues before after)
    (hm : after.current = before.current) : IsFiled after where
  single := hm ▸ h.single
  own := fun entry he => (h.own entry (hm ▸ he)).context hc

/-- The map stays in order without one of its contexts. -/
theorem IsFiled.erase (h : IsFiled contexts) (context : String) :
    IsFiled { contexts with current := contexts.current.erase context } where
  single := Keyed.nodup_keys_erase h.single context
  own := fun entry he => h.own entry (List.mem_filter.mp he).1

/-- The map stays in order with a session of its own context. -/
theorem IsFiled.put (h : IsFiled contexts) (hp : contexts.IsAt place (·.context = context)) :
    IsFiled { contexts with current := contexts.current.put context place } where
  single := Keyed.nodup_keys_put h.single context place
  own := by
    intro entry he
    rcases List.mem_cons.mp ((Keyed.put_perm _ context place).mem_iff.mp he) with rfl | he
    · exact hp
    · exact h.own entry (List.mem_filter.mp he).1

/-- A call answers for the same sessions while they go on. -/
theorem Stage.IsDestined.continue (h : stage.IsDestined before) (hc : Continues before after) :
    stage.IsDestined after :=
  fun context place hs => (h context place hs).context hc

/-- Where a call that closes a session is done, the session has stopped. -/
theorem hasStopped_of_isDone (hu : ∀ session ∈ contexts.sessions, session.IsUpright)
    {ticket : Nat} (hd : contexts.isDone place ticket = true) :
    contexts.IsAt place Session.HasStopped := by
  unfold isDone at hd
  cases hs : contexts.session? place with
  | none =>
    rw [hs] at hd
    exact absurd hd (by simp)
  | some session =>
    rw [hs] at hd
    exact ⟨session, hs, (hu session (List.mem_of_getElem? hs)).hasStopped hd⟩

/-- A call that begins takes what it takes out of the map. -/
theorem transfers_commence (hf : IsFiled contexts) {call : Call}
    (hc : (Step.calls call).IsFair contexts) :
    Transfers contexts (contexts.commence call).1 contexts.filed
      ((contexts.commence call).1.filed ++ (contexts.commence call).2.places) := by
  have hnone : Transfers contexts contexts contexts.filed (contexts.filed ++ []) :=
    transfers_of_perm (continues_of_eq rfl) rfl (List.Perm.of_eq (List.append_nil _))
  cases call with
  | connect context settings =>
    cases hw : contexts.connected? context with
    | some place =>
      rw [commence_of_connected hw]
      exact hnone
    | none =>
      rw [commence_of_none hw]
      exact hnone
  | close context =>
    unfold commence
    dsimp only
    split
    · next place hg =>
      refine transfers_of_perm (continues_of_eq rfl) rfl ?_
      exact (List.perm_append_singleton place _).trans (filed_erase hf hg).symm
    · exact hnone
  | closeAll arrange => exact transfers_of_perm (continues_of_eq rfl) rfl hc

/-- A call that goes on takes up what it opens, exchanges sessions with the map, and lets go
of what it has closed. -/
theorem Advances.transfers (h : contexts.Advances stage after next) (hf : IsFiled contexts)
    (hu : ∀ session ∈ contexts.sessions, session.IsUpright) :
    Transfers contexts after (contexts.filed ++ stage.places) (after.filed ++ next.places) := by
  have hsame (places : List Nat) :
      Transfers contexts contexts (contexts.filed ++ places) (contexts.filed ++ places) :=
    transfers_of_perm (continues_of_eq rfl) rfl (List.Perm.refl _)
  cases h with
  | stays => exact hsame stage.places
  | fails context settings why => exact hsame []
  | opens context settings =>
    refine ⟨continues_concat (Session.isUpright_opened _ _ _ _ _ _) rfl,
      [contexts.sessions.length], [], ?_, rfl, List.length_append, fun _ hm => ?_⟩
    · have hold : contexts.filed ++ Stage.places (.opening context settings) = contexts.filed :=
        List.append_nil _
      rw [hold]
      exact List.perm_append_singleton _ _
    · exact absurd hm List.not_mem_nil
  | yields place hw => exact hsame [place]
  | replaces place hw =>
    exact transfers_of_perm (continues_of_eq rfl) rfl (filed_put hf _ place)
  | ends answer => exact hsame []
  | closes place places answer =>
    exact transfers_of_perm (continues_closeAt contexts place) (List.length_modify _ _ _)
      (List.Perm.refl _)
  | @releases place ticket hd places answer =>
    have hperm : (place :: (contexts.filed ++ places)).Perm (contexts.filed ++ place :: places) :=
      List.perm_middle.symm
    exact ⟨continues_of_eq rfl, [], [place], hperm, rfl, rfl,
      List.forall_mem_singleton.mpr (hasStopped_of_isDone hu hd)⟩

/-- A call leaves the map in order, and is in order itself. -/
theorem IsFiled.commence (h : IsFiled contexts) (call : Call) :
    IsFiled (contexts.commence call).1 ∧
      (contexts.commence call).2.IsDestined (contexts.commence call).1 := by
  cases call with
  | connect context settings =>
    cases hw : contexts.connected? context with
    | some place =>
      rw [commence_of_connected hw]
      exact ⟨h, fun _ _ hs => absurd hs (by simp)⟩
    | none =>
      rw [commence_of_none hw]
      exact ⟨h, fun _ _ hs => absurd hs (by simp)⟩
  | close context =>
    unfold Contexts.commence
    dsimp only
    split
    · exact ⟨h.erase context, fun _ _ hs => absurd hs (by simp)⟩
    · exact ⟨h, fun _ _ hs => absurd hs (by simp)⟩
  | closeAll arrange =>
    exact ⟨⟨List.nodup_nil, fun _ hm => absurd hm List.not_mem_nil⟩,
      fun _ _ hs => absurd hs (by simp [Contexts.commence])⟩

/-- One step of a call leaves the map in order and the call with sessions of its own context. -/
theorem Advances.isFiled (h : contexts.Advances stage after next) (hf : IsFiled contexts)
    (hd : stage.IsDestined contexts) : IsFiled after ∧ next.IsDestined after := by
  cases h with
  | stays => exact ⟨hf, hd⟩
  | opens context settings =>
    refine ⟨hf.continue (continues_concat (Session.isUpright_opened _ _ _ _ _ _) rfl) rfl, ?_⟩
    rintro _ _ ⟨⟩
    exact ⟨_, List.getElem?_concat_length, rfl⟩
  | replaces place hw => exact ⟨hf.put (hd _ place rfl), fun _ _ hs => absurd hs (by simp)⟩
  | closes place places answer =>
    exact ⟨hf.continue (continues_closeAt contexts place) rfl,
      fun _ _ hs => absurd hs (by simp)⟩
  | fails | yields | ends | releases => exact ⟨hf, fun _ _ hs => absurd hs (by simp)⟩

end Map

section Runs

variable {traffic : Traffic}

/-- The calls but for one answer for the same sessions whatever that one does. -/
theorem owned_set {number : Nat} {stage : Stage} (h : traffic.calls[number]? = some stage)
    (contexts : Contexts) (next : Stage) :
    ∃ rest, traffic.owned.Perm ((traffic.contexts.filed ++ stage.places) ++ rest) ∧
      (Traffic.owned ⟨contexts, traffic.calls.set number next⟩).Perm
        ((contexts.filed ++ next.places) ++ rest) := by
  obtain ⟨hlt, rfl⟩ := List.getElem?_eq_some_iff.mp h
  refine ⟨(traffic.calls.eraseIdx number).flatMap Stage.places, ?_, ?_⟩
  · have hperm := (List.getElem_cons_eraseIdx_perm hlt).symm.flatMap_right Stage.places
    rw [List.append_assoc]
    exact hperm.append_left _
  · have hperm := (List.set_perm_cons_eraseIdx hlt next).flatMap_right Stage.places
    rw [List.append_assoc]
    exact hperm.append_left _

/-- Sessions that go on in their places, with the map as it is, stay in order. -/
theorem Traffic.IsSound.continue (h : traffic.IsSound) {after : Contexts}
    (hc : Continues traffic.contexts after) (hm : after.current = traffic.contexts.current)
    (hl : after.sessions.length = traffic.contexts.sessions.length) :
    Traffic.IsSound { traffic with contexts := after } where
  accounted := by
    have hfiled : after.filed = traffic.contexts.filed := by
      rw [Contexts.filed, hm, Contexts.filed]
    have hperm : after.filed.Perm traffic.contexts.filed := List.Perm.of_eq hfiled
    exact h.accounted.transfer (transfers_of_perm hc hl hperm)
  filed := h.filed.continue hc hm
  destined := fun stage hs => (h.destined stage hs).continue hc

/-- Whatever happens leaves the sessions in order. -/
theorem Traffic.IsSound.take (h : traffic.IsSound) {step : Step}
    (hs : step.IsFair traffic.contexts) : (traffic.take step).IsSound := by
  cases step with
  | calls call =>
    have htransfers := transfers_commence h.filed hs
    obtain ⟨hfiled, hdestined⟩ := h.filed.commence call
    refine ⟨?_, hfiled, fun stage hm => ?_⟩
    · refine (h.accounted.transfer htransfers).perm ?_
      have howned : Traffic.owned (traffic.take (.calls call))
          = (traffic.contexts.commence call).1.filed
            ++ (traffic.calls.flatMap Stage.places
              ++ (traffic.contexts.commence call).2.places) := by
        unfold Traffic.owned Traffic.take
        dsimp only
        rw [List.flatMap_append, List.flatMap_singleton]
      rw [howned, List.append_assoc]
      exact List.perm_append_comm.append_left _
    · rcases List.mem_append.mp hm with hm | hm
      · exact (h.destined stage hm).continue htransfers.continues
      · exact List.mem_singleton.mp hm ▸ hdestined
  | proceeds number listens =>
    unfold Traffic.take
    dsimp only
    split
    · next stage hn =>
      have hstage := h.destined stage (List.mem_of_getElem? hn)
      have hadvances := traffic.contexts.advances listens stage
      have htransfers := hadvances.transfers h.filed h.accounted.upright
      obtain ⟨hfiled, hdestined⟩ := hadvances.isFiled h.filed hstage
      obtain ⟨rest, hbefore, hafter⟩ := owned_set hn (traffic.contexts.advance listens stage).1
        (traffic.contexts.advance listens stage).2
      refine ⟨?_, hfiled, fun other hm => ?_⟩
      · exact ((h.accounted.perm hbefore.symm).transfer htransfers).perm hafter
      · rcases List.mem_or_eq_of_mem_set hm with hm | rfl
        · exact (h.destined other hm).continue htransfers.continues
        · exact hdestined
    · exact h
  | moves place move =>
    exact h.continue (continues_moveAt hs) rfl (List.length_modify _ _ _)
  | hangsUp address =>
    exact h.continue (continues_hangUp traffic.contexts address) rfl (List.length_map _)

/-- An editor that has done nothing has its sessions in order. -/
theorem Traffic.isSound_idle (settings : Settings) (frontEnd : FrontEnd)
    (spillDirectory : String) (draw : Nat → Nat → Nat) :
    (Traffic.idle settings frontEnd spillDirectory draw).IsSound where
  accounted :=
    { upright := fun _ hm => absurd hm List.not_mem_nil
      once := List.nodup_nil
      opened := fun _ hm => absurd hm List.not_mem_nil
      stopped := fun _ hlt => absurd hlt (Nat.not_lt_zero _) }
  filed := ⟨List.nodup_nil, fun _ hm => absurd hm List.not_mem_nil⟩
  destined := fun _ hm => absurd hm List.not_mem_nil

/-- Any allowed steps leave the sessions in order. -/
theorem Traffic.IsSound.run (h : traffic.IsSound) {steps : List Step}
    (hs : traffic.Allows steps) : (traffic.run steps).IsSound := by
  induction steps generalizing traffic with
  | nil => exact h
  | cons step rest ih => exact ih (h.take hs.1) hs.2

/-- Where no call is in progress, every session is in the map or has stopped. -/
theorem Traffic.IsSound.atRest (h : traffic.IsSound) (hq : traffic.IsQuiet) {place : Nat}
    {session : Session} (hs : traffic.contexts.session? place = some session) :
    traffic.contexts.get session.context = some place ∨ session.HasStopped := by
  have hnone : traffic.calls.flatMap Stage.places = [] := by
    refine List.flatMap_eq_nil_iff.mpr fun stage hm => ?_
    have hended := hq stage hm
    cases stage <;> first | rfl | exact absurd hended id
  have howned : traffic.owned = traffic.contexts.filed := by
    rw [Traffic.owned, hnone, List.append_nil]
  by_cases hm : place ∈ traffic.contexts.filed
  · obtain ⟨⟨context, _⟩, he, rfl⟩ := List.mem_map.mp hm
    obtain ⟨other, ho, hcontext⟩ := h.filed.own _ he
    obtain rfl : other = session := Option.some.inj (ho.symm.trans hs)
    dsimp only at hcontext
    rw [hcontext]
    exact .inl (Keyed.get?_of_mem h.filed.single he)
  · obtain ⟨other, ho, hstopped⟩ := h.accounted.stopped place
      (List.getElem?_eq_some_iff.mp hs).1 (howned ▸ hm)
    obtain rfl : other = session := Option.some.inj (ho.symm.trans hs)
    exact .inr hstopped

end Runs

end Contexts

end ReplLink
