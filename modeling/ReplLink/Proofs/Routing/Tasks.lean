import ReplLink.Proofs.Routing.Roster

/-!
# Tasks at one roster

Many tasks share a roster. Each call on it is done as a whole, and the calls of the
tasks come in any order. All that the tasks have to keep to is that an id is freed
only by a task that has checked it out, once for each time. Then every job that was
registered is handed out to one task at most, and it is never lost.

What is proved speaks about the turns that were taken, by their numbers: a turn
hands out the job of the latest registration of its id. The invariant says for each
id where its latest registration is, and that is kept apart from the other ids. So
there is one case for each way in which a turn can touch an id.
-/

namespace ReplLink.Routing

section Definitions

/-- What a task may ask of the roster. -/
inductive Ask where
  /-- To register a job under an id. -/
  | enter (id : String) (job : Job)
  /-- To check out the job that waits under an id. -/
  | checkOut (id : String)
  /-- To free an id whose job it has ended. -/
  | free (id : String)
  /-- To take back a job that was not sent. -/
  | takeBack (id : String)
  /-- To take all the jobs that wait. -/
  | takeAll

/-- What the roster answers. -/
inductive Answer where
  /-- Whether the job is registered now. -/
  | entered (done : Bool)
  /-- The jobs that the task is given, with their ids. -/
  | handed (jobs : List (String × Job))
  /-- Whether the id was registered. -/
  | freed (found : Bool)

/-- One call on the roster. -/
def Roster.attend (roster : Roster) : Ask → Answer × Roster
  | .enter id job =>
    match roster.enter? id job with
    | some after => (.entered true, after)
    | none => (.entered false, roster)
  | .checkOut id =>
    match roster.checkOut id with
    | some (job, after) => (.handed [(id, job)], after)
    | none => (.handed [], roster)
  | .free id => (.freed (roster.contains id), roster.free id)
  | .takeBack id =>
    match roster.takeBack id with
    | some (job, after) => (.handed [(id, job)], after)
    | none => (.handed [], roster)
  | .takeAll => (.handed roster.takeAll.1, roster.takeAll.2)

/-- A task comes to the roster. -/
structure Visit where
  /-- The number of the task. -/
  task : Nat
  /-- What it asks. -/
  ask : Ask

/-- A call that was done. -/
structure Turn where
  /-- The number of the task. -/
  task : Nat
  /-- What it asked. -/
  ask : Ask
  /-- What it was answered. -/
  answer : Answer

/-- The turn that a visit gets. -/
def Roster.turn (roster : Roster) (visit : Visit) : Turn :=
  ⟨visit.task, visit.ask, (roster.attend visit.ask).1⟩

namespace Turn

/-- The job that the turn registered. -/
def registers : Turn → Option (String × Job)
  | ⟨_, .enter id job, .entered true⟩ => some (id, job)
  | _ => none

/-- The jobs that the turn gave to its task. -/
def handsOut : Turn → List (String × Job)
  | ⟨_, _, .handed jobs⟩ => jobs
  | _ => []

/-- The turn has given the job under this id to this task, and marked its place. -/
def checksOut (task : Nat) (id : String) : Turn → Bool
  | ⟨owner, .checkOut other, .handed (_ :: _)⟩ => owner == task && other == id
  | _ => false

/-- The task has freed the id in this turn. -/
def frees (task : Nat) (id : String) : Turn → Bool
  | ⟨owner, .free other, _⟩ => owner == task && other == id
  | _ => false

end Turn

/-- The task has checked out the id more often than it has freed it. -/
def Owes (turns : List Turn) (task : Nat) (id : String) : Prop :=
  turns.countP (Turn.frees task id) < turns.countP (Turn.checksOut task id)

instance (turns : List Turn) (task : Nat) (id : String) : Decidable (Owes turns task id) :=
  inferInstanceAs (Decidable (_ < _))

/-- A task frees an id only if it owes that. All else is allowed at any time. -/
def Visit.IsAllowed (turns : List Turn) : Visit → Prop
  | ⟨task, .free id⟩ => Owes turns task id
  | _ => True

instance (turns : List Turn) : (visit : Visit) → Decidable (visit.IsAllowed turns)
  | ⟨task, .free id⟩ => inferInstanceAs (Decidable (Owes turns task id))
  | ⟨_, .enter _ _⟩ => inferInstanceAs (Decidable True)
  | ⟨_, .checkOut _⟩ => inferInstanceAs (Decidable True)
  | ⟨_, .takeBack _⟩ => inferInstanceAs (Decidable True)
  | ⟨_, .takeAll⟩ => inferInstanceAs (Decidable True)

/-- A roster with the turns that were taken at it. -/
structure Desk where
  /-- The turns in order. -/
  turns : List Turn
  /-- The roster after them. -/
  roster : Roster

namespace Desk

/-- Nobody has come yet. -/
def opened : Desk := ⟨[], Keyed.empty⟩

/-- One visit. -/
def serve (desk : Desk) (visit : Visit) : Desk :=
  ⟨desk.turns ++ [desk.roster.turn visit], (desk.roster.attend visit.ask).2⟩

/-- One visit after the other. -/
def serveAll (desk : Desk) (visits : List Visit) : Desk := visits.foldl serve desk

/-- Each visit is allowed when it comes. -/
def Obeys : Desk → List Visit → Prop
  | _, [] => True
  | desk, visit :: rest => visit.IsAllowed desk.turns ∧ (desk.serve visit).Obeys rest

instance decidableObeys : (desk : Desk) → (visits : List Visit) → Decidable (desk.Obeys visits)
  | _, [] => inferInstanceAs (Decidable True)
  | desk, visit :: rest =>
    have := decidableObeys (desk.serve visit) rest
    inferInstanceAs (Decidable (_ ∧ _))

end Desk

/-- The turn with this number has registered the job. -/
def RegisteredAt (turns : List Turn) (number : Nat) (id : String) (job : Job) : Prop :=
  ∃ turn, turns[number]? = some turn ∧ turn.registers = some (id, job)

/-- The turn with this number has given the job to its task. -/
def HandedAt (turns : List Turn) (number : Nat) (id : String) (job : Job) : Prop :=
  ∃ turn, turns[number]? = some turn ∧ (id, job) ∈ turn.handsOut

/-- What turn `second` has handed out is what turn `first` has registered: between
the two nothing else was registered under the id. -/
structure Takes (turns : List Turn) (first second : Nat) (id : String) (job : Job) : Prop where
  /-- The job is registered. -/
  registered : RegisteredAt turns first id job
  /-- It is handed out. -/
  handed : HandedAt turns second id job
  /-- That happens later. -/
  later : first < second
  /-- It is the latest registration. -/
  latest : ∀ between other, RegisteredAt turns between id other → between < second →
    between ≤ first

/-- A turn touches what is filed under an id in one of these ways. -/
inductive Touches (turn : Turn) (id : String) : Option Holding → Option Holding → Prop
  /-- A job is registered. -/
  | entered {job : Job} (hr : turn.registers = some (id, job)) (hh : turn.handsOut = [])
    (hc : ∀ task, turn.checksOut task id = false) (hf : ∀ task, turn.frees task id = false) :
    Touches turn id none (some (.held job))
  /-- The job is handed out, and its place is marked. -/
  | checkedOut {job : Job} (hr : turn.registers = none) (hh : turn.handsOut = [(id, job)])
    (hc : ∀ task, turn.checksOut task id = (turn.task == task))
    (hf : ∀ task, turn.frees task id = false) :
    Touches turn id (some (.held job)) (some .out)
  /-- The job is handed out, and its place is given up. -/
  | taken {job : Job} (hr : turn.registers = none) (hh : (id, job) ∈ turn.handsOut)
    (ho : ∀ other, (id, other) ∈ turn.handsOut → other = job)
    (hc : ∀ task, turn.checksOut task id = false) (hf : ∀ task, turn.frees task id = false) :
    Touches turn id (some (.held job)) none
  /-- The id is freed. -/
  | freed {before : Option Holding} (hr : turn.registers = none) (hh : turn.handsOut = [])
    (hc : ∀ task, turn.checksOut task id = false)
    (hf : ∀ task, turn.frees task id = (turn.task == task)) :
    Touches turn id before none
  /-- It is left alone. -/
  | quiet {holding : Option Holding} (hr : ∀ job, turn.registers ≠ some (id, job))
    (hh : ∀ job, (id, job) ∉ turn.handsOut)
    (hc : ∀ task, turn.checksOut task id = false) (hf : ∀ task, turn.frees task id = false) :
    Touches turn id holding holding

end Definitions

section Touching

variable {roster : Roster}

namespace Roster

/-- Nothing waits under an id that is free or marked. -/
theorem heldUnder_eq_none_iff {id : String} :
    roster.heldUnder id = none ↔ ∀ job, roster.get? id ≠ some (.held job) := by
  rw [heldUnder]
  cases roster.get? id with
  | none => simp
  | some holding => cases holding <;> simp

/-- When all that wait are taken, the places that are marked are left. -/
theorem get?_checkedOut (hn : roster.keys.Nodup) (id : String) :
    (checkedOut roster).get? id = if roster.heldUnder id = none then roster.get? id else none := by
  have hafter := nodup_keys_checkedOut hn
  have hout : (checkedOut roster).get? id = some .out ↔ roster.get? id = some .out := by
    rw [← mem_outIds_iff hafter, outIds_checkedOut, mem_outIds_iff hn]
  have hheld (job : Job) : (checkedOut roster).get? id ≠ some (.held job) := by
    refine heldUnder_eq_none_iff.mp (Option.eq_none_iff_forall_ne_some.mpr fun found hf => ?_) job
    have hm := (mem_waiting_iff hafter).mpr hf
    rw [waiting_checkedOut] at hm
    exact absurd hm List.not_mem_nil
  have hsame : roster.get? id ≠ some .out → (checkedOut roster).get? id = none := by
    intro hne
    cases ha : (checkedOut roster).get? id with
    | none => rfl
    | some holding =>
      cases holding with
      | held job => exact absurd ha (hheld job)
      | out => exact absurd (hout.mp ha) hne
  by_cases ho : roster.get? id = some .out
  · rw [if_pos (heldUnder_eq_none_iff.mpr fun job => by rw [ho]; simp), ho, hout.mpr ho]
  · rw [hsame ho]
    split
    · next hnone =>
      cases hb : roster.get? id with
      | none => rfl
      | some holding =>
        cases holding with
        | held job => exact absurd hb (heldUnder_eq_none_iff.mp hnone job)
        | out => exact absurd hb ho
    · rfl

/-- Each call in the cases that matter. -/
theorem attend_enter_of_none {id : String} (h : roster.get? id = none) (job : Job) :
    roster.attend (.enter id job) = (.entered true, roster.put id (.held job)) := by
  rw [attend, enter?, Keyed.contains, h]
  rfl

/-- An id that is registered is refused to another job. -/
theorem attend_enter_of_some {id : String} {holding : Holding} (h : roster.get? id = some holding)
    (job : Job) : roster.attend (.enter id job) = (.entered false, roster) := by
  rw [attend, enter?, Keyed.contains, h]
  rfl

/-- A job that waits is handed out, and its id is out. -/
theorem attend_checkOut_of_held {id : String} {job : Job} (h : roster.heldUnder id = some job) :
    roster.attend (.checkOut id) = (.handed [(id, job)], roster.put id .out) := by
  rw [attend, checkOut_eq, h]
  rfl

/-- Where no job waits, none is handed out for a response. -/
theorem attend_checkOut_of_none {id : String} (h : roster.heldUnder id = none) :
    roster.attend (.checkOut id) = (.handed [], roster) := by
  rw [attend, checkOut_eq, h]
  rfl

/-- A job that waits is handed back, and its id is free. -/
theorem attend_takeBack_of_held {id : String} {job : Job} (h : roster.heldUnder id = some job) :
    roster.attend (.takeBack id) = (.handed [(id, job)], roster.erase id) := by
  rw [attend, takeBack, get?_of_heldUnder h]

/-- Where no job waits, none is handed back. -/
theorem attend_takeBack_of_none {id : String} (h : roster.heldUnder id = none) :
    roster.attend (.takeBack id) = (.handed [], roster) := by
  have hne := heldUnder_eq_none_iff.mp h
  rw [attend, takeBack]
  cases hg : roster.get? id with
  | none => rfl
  | some holding =>
    cases holding with
    | held job => exact absurd hg (hne job)
    | out => rfl

/-- An id stays registered once. -/
theorem nodup_keys_attend (hn : roster.keys.Nodup) (ask : Ask) :
    (roster.attend ask).2.keys.Nodup := by
  cases ask with
  | enter id job =>
    cases h : roster.get? id with
    | none => exact attend_enter_of_none h job ▸ Keyed.nodup_keys_put hn id _
    | some holding => exact attend_enter_of_some h job ▸ hn
  | checkOut id =>
    cases h : roster.heldUnder id with
    | none => exact attend_checkOut_of_none h ▸ hn
    | some job => exact attend_checkOut_of_held h ▸ Keyed.nodup_keys_put hn id _
  | free id => exact Keyed.nodup_keys_erase hn id
  | takeBack id =>
    cases h : roster.heldUnder id with
    | none => exact attend_takeBack_of_none h ▸ hn
    | some job => exact attend_takeBack_of_held h ▸ Keyed.nodup_keys_erase hn id
  | takeAll => exact nodup_keys_checkedOut hn

/-- No turn gives the same id twice. -/
theorem nodup_handsOut (hn : roster.keys.Nodup) (visit : Visit) :
    ((roster.turn visit).handsOut.map (·.1)).Nodup := by
  obtain ⟨task, ask⟩ := visit
  cases ask with
  | enter id job =>
    cases h : roster.get? id with
    | none => rw [turn, attend_enter_of_none h]; exact List.nodup_nil
    | some holding => rw [turn, attend_enter_of_some h]; exact List.nodup_nil
  | checkOut id =>
    cases h : roster.heldUnder id with
    | none => rw [turn, attend_checkOut_of_none h]; exact List.nodup_nil
    | some job => rw [turn, attend_checkOut_of_held h]; exact List.pairwise_singleton _ _
  | free id => exact List.nodup_nil
  | takeBack id =>
    cases h : roster.heldUnder id with
    | none => rw [turn, attend_takeBack_of_none h]; exact List.nodup_nil
    | some job => rw [turn, attend_takeBack_of_held h]; exact List.pairwise_singleton _ _
  | takeAll => exact (List.nodup_append.mp ((keys_perm roster).nodup_iff.mp hn)).1

/-- A call that was refused, or found nothing, leaves all ids alone. -/
theorem quiet_of_refused (task : Nat) (target id : String) (holding : Option Holding) :
    (∀ job, Touches ⟨task, .enter target job, .entered false⟩ id holding holding) ∧
      Touches ⟨task, .checkOut target, .handed []⟩ id holding holding ∧
      Touches ⟨task, .takeBack target, .handed []⟩ id holding holding := by
  refine ⟨fun job => ?_, ?_, ?_⟩
  all_goals
    exact .quiet (by simp [Turn.registers]) (by simp [Turn.handsOut]) (fun _ => rfl)
      fun _ => rfl

/-- A call on one id leaves the others alone, whatever its answer. -/
theorem quiet_of_ne {target id : String} (h : id ≠ target) (task : Nat) (holding : Option Holding) :
    (∀ job done, Touches ⟨task, .enter target job, .entered done⟩ id holding holding) ∧
      (∀ job, Touches ⟨task, .checkOut target, .handed [(target, job)]⟩ id holding holding) ∧
      (∀ found, Touches ⟨task, .free target, .freed found⟩ id holding holding) ∧
      (∀ job, Touches ⟨task, .takeBack target, .handed [(target, job)]⟩ id holding holding) := by
  have hne : (target == id) = false := beq_eq_false_iff_ne.mpr h.symm
  refine ⟨fun job done => ?_, fun job => ?_, fun found => ?_, fun job => ?_⟩
  · cases done with
    | false => exact (quiet_of_refused task target id holding).1 job
    | true =>
      exact .quiet (by simp [Turn.registers, h.symm]) (by simp [Turn.handsOut]) (fun _ => rfl)
        fun _ => rfl
  · exact .quiet (by simp [Turn.registers]) (by simp [Turn.handsOut, h])
      (by simp [Turn.checksOut, hne]) (fun _ => rfl)
  · exact .quiet (by simp [Turn.registers]) (by simp [Turn.handsOut]) (fun _ => rfl)
      (by simp [Turn.frees, hne])
  · exact .quiet (by simp [Turn.registers]) (by simp [Turn.handsOut, h]) (fun _ => rfl)
      (fun _ => rfl)

/-- Taking all that wait takes each of them, and leaves what is marked. -/
theorem touches_takeAll (hn : roster.keys.Nodup) (task : Nat) (id : String) :
    Touches (roster.turn ⟨task, .takeAll⟩) id (roster.get? id)
      ((roster.attend .takeAll).2.get? id) := by
  have hmem (job : Job) : (id, job) ∈ (roster.turn ⟨task, .takeAll⟩).handsOut ↔
      roster.heldUnder id = some job := mem_waiting_iff hn
  have hafter : (roster.attend .takeAll).2.get? id
      = if roster.heldUnder id = none then roster.get? id else none := get?_checkedOut hn id
  rw [hafter]
  cases h : roster.heldUnder id with
  | none =>
    exact .quiet (by simp [turn, Turn.registers]) (by simp [hmem, h]) (fun _ => rfl) fun _ => rfl
  | some job =>
    rw [get?_of_heldUnder h]
    have honly (other : Job) (ho : (id, other) ∈ (roster.turn ⟨task, .takeAll⟩).handsOut) :
        other = job := Option.some.inj (((hmem other).mp ho).symm.trans h)
    exact .taken rfl ((hmem job).mpr h) honly (fun _ => rfl) fun _ => rfl

/-- Whatever a task asks, each id is touched in one of the ways. -/
theorem touches (hn : roster.keys.Nodup) (visit : Visit) (id : String) :
    Touches (roster.turn visit) id (roster.get? id) ((roster.attend visit.ask).2.get? id) := by
  obtain ⟨task, ask⟩ := visit
  cases ask with
  | enter target job =>
    cases h : roster.get? target with
    | some holding =>
      rw [turn, attend_enter_of_some h]
      exact (quiet_of_refused task target id _).1 job
    | none =>
      rw [turn, attend_enter_of_none h]
      by_cases he : id = target
      · subst he
        rw [h, Keyed.get?_put_self]
        exact .entered rfl rfl (fun _ => rfl) fun _ => rfl
      · rw [Keyed.get?_put_of_ne roster _ he]
        exact (quiet_of_ne he task _).1 job true
  | checkOut target =>
    cases h : roster.heldUnder target with
    | none =>
      rw [turn, attend_checkOut_of_none h]
      exact (quiet_of_refused task target id _).2.1
    | some job =>
      rw [turn, attend_checkOut_of_held h]
      by_cases he : id = target
      · subst he
        rw [get?_of_heldUnder h, Keyed.get?_put_self]
        exact .checkedOut rfl rfl (fun _ => by simp [Turn.checksOut]) fun _ => rfl
      · rw [Keyed.get?_put_of_ne roster _ he]
        exact (quiet_of_ne he task _).2.1 job
  | free target =>
    by_cases he : id = target
    · subst he
      rw [attend, free, Keyed.get?_erase_self]
      exact .freed rfl rfl (fun _ => rfl) fun _ => by simp [turn, Turn.frees]
    · rw [attend, free, Keyed.get?_erase_of_ne roster he]
      exact (quiet_of_ne he task _).2.2.1 _
  | takeBack target =>
    cases h : roster.heldUnder target with
    | none =>
      rw [turn, attend_takeBack_of_none h]
      exact (quiet_of_refused task target id _).2.2
    | some job =>
      rw [turn, attend_takeBack_of_held h]
      by_cases he : id = target
      · subst he
        rw [get?_of_heldUnder h, Keyed.get?_erase_self]
        exact .taken rfl (List.mem_singleton.mpr rfl)
          (fun other ho => by simpa [Turn.handsOut] using ho) (fun _ => rfl) fun _ => rfl
      · rw [Keyed.get?_erase_of_ne roster he]
        exact (quiet_of_ne he task _).2.2.2 job
  | takeAll => exact touches_takeAll hn task id

end Roster

end Touching

section Turns

variable {turns : List Turn} {turn : Turn} {first second number : Nat} {id : String} {job : Job}

/-- The last turn is known by its number. -/
theorem getElem?_concat_eq_some_iff {found : Turn} :
    (turns ++ [turn])[number]? = some found ↔
      turns[number]? = some found ∨ number = turns.length ∧ turn = found := by
  rcases Nat.lt_trichotomy number turns.length with h | h | h
  · rw [List.getElem?_append_left h]
    simp [Nat.ne_of_lt h]
  · subst h
    simp
  · have hone : ([turn] : List Turn).length ≤ number - turns.length := by
      rw [List.length_singleton]
      omega
    rw [List.getElem?_append_right (Nat.le_of_lt h), List.getElem?_eq_none hone,
      List.getElem?_eq_none (Nat.le_of_lt h)]
    simp [Nat.ne_of_gt h]

/-- A registration happened before, or it happens in the last turn. -/
theorem registeredAt_concat : RegisteredAt (turns ++ [turn]) number id job ↔
    RegisteredAt turns number id job ∨
      number = turns.length ∧ turn.registers = some (id, job) := by
  simp only [RegisteredAt, getElem?_concat_eq_some_iff]
  constructor
  · rintro ⟨found, hf | ⟨hl, rfl⟩, hr⟩
    · exact .inl ⟨found, hf, hr⟩
    · exact .inr ⟨hl, hr⟩
  · rintro (⟨found, hf, hr⟩ | ⟨hl, hr⟩)
    · exact ⟨found, .inl hf, hr⟩
    · exact ⟨turn, .inr ⟨hl, rfl⟩, hr⟩

/-- A job was handed out before, or it is handed out in the last turn. -/
theorem handedAt_concat : HandedAt (turns ++ [turn]) number id job ↔
    HandedAt turns number id job ∨ number = turns.length ∧ (id, job) ∈ turn.handsOut := by
  simp only [HandedAt, getElem?_concat_eq_some_iff]
  constructor
  · rintro ⟨found, hf | ⟨hl, rfl⟩, hr⟩
    · exact .inl ⟨found, hf, hr⟩
    · exact .inr ⟨hl, hr⟩
  · rintro (⟨found, hf, hr⟩ | ⟨hl, hr⟩)
    · exact ⟨found, .inl hf, hr⟩
    · exact ⟨turn, .inr ⟨hl, rfl⟩, hr⟩

theorem RegisteredAt.lt (h : RegisteredAt turns number id job) : number < turns.length := by
  obtain ⟨found, hf, -⟩ := h
  exact (List.getElem?_eq_some_iff.mp hf).1

/-- A turn registers one job. -/
theorem RegisteredAt.unique {other : Job} (h : RegisteredAt turns number id job)
    (h' : RegisteredAt turns number id other) : job = other := by
  obtain ⟨found, hf, hr⟩ := h
  obtain ⟨found', hf', hr'⟩ := h'
  obtain rfl := Option.some.inj (hf.symm.trans hf')
  exact (Prod.mk.inj (Option.some.inj (hr.symm.trans hr'))).2

theorem HandedAt.lt (h : HandedAt turns number id job) : number < turns.length := by
  obtain ⟨found, hf, -⟩ := h
  exact (List.getElem?_eq_some_iff.mp hf).1

/-- The last turn takes the latest registration, or an earlier turn has taken one. -/
theorem takes_concat : Takes (turns ++ [turn]) first second id job ↔
    Takes turns first second id job ∨
      second = turns.length ∧ (id, job) ∈ turn.handsOut ∧ RegisteredAt turns first id job ∧
        ∀ between other, RegisteredAt turns between id other → between ≤ first := by
  constructor
  · intro h
    have hreg : RegisteredAt turns first id job := by
      rcases registeredAt_concat.mp h.registered with hr | ⟨hl, -⟩
      · exact hr
      · have := h.handed.lt
        have := h.later
        rw [List.length_append, List.length_singleton] at *
        omega
    rcases handedAt_concat.mp h.handed with hh | ⟨hl, hh⟩
    · exact .inl ⟨hreg, hh, h.later, fun between other hb =>
        h.latest between other (registeredAt_concat.mpr (.inl hb))⟩
    · refine .inr ⟨hl, hh, hreg, fun between other hb => ?_⟩
      exact h.latest between other (registeredAt_concat.mpr (.inl hb)) (hl ▸ hb.lt)
  · rintro (h | ⟨rfl, hh, hreg, hlatest⟩)
    · refine ⟨registeredAt_concat.mpr (.inl h.registered), handedAt_concat.mpr (.inl h.handed),
        h.later, fun between other hb hlt => ?_⟩
      rcases registeredAt_concat.mp hb with hb | ⟨rfl, -⟩
      · exact h.latest between other hb hlt
      · exact absurd h.handed.lt (by omega)
    · refine ⟨registeredAt_concat.mpr (.inl hreg), handedAt_concat.mpr (.inr ⟨rfl, hh⟩), hreg.lt,
        fun between other hb hlt => ?_⟩
      rcases registeredAt_concat.mp hb with hb | ⟨rfl, -⟩
      · exact hlatest between other hb
      · exact absurd hlt (Nat.lt_irrefl _)

/-- Each job that was registered under the id, but for those from a turn on, has been
handed out. -/
def TakenBefore (turns : List Turn) (id : String) (limit : Nat) : Prop :=
  ∀ number job, RegisteredAt turns number id job → number < limit →
    ∃ second, Takes turns number second id job

/-- The task has freed the id as often as it has checked it out. -/
def IsQuits (turns : List Turn) (id : String) (task : Nat) : Prop :=
  turns.countP (Turn.checksOut task id) = turns.countP (Turn.frees task id)

/-- What is filed under an id, by what has happened to it. -/
inductive Attests (turns : List Turn) (id : String) : Option Holding → Prop
  /-- Nothing is filed, and all its jobs have been handed out. -/
  | away (ht : TakenBefore turns id turns.length) (hq : ∀ task, IsQuits turns id task) :
    Attests turns id none
  /-- The job of the latest registration waits. -/
  | waiting {latest : Nat} {job : Job} (hr : RegisteredAt turns latest id job)
    (hl : ∀ number other, RegisteredAt turns number id other → number ≤ latest)
    (hn : ∀ number other, HandedAt turns number id other → number < latest)
    (ht : TakenBefore turns id latest) (hq : ∀ task, IsQuits turns id task) :
    Attests turns id (some (.held job))
  /-- A task has checked out the job of the latest registration. -/
  | out {owner latest exit : Nat} {job : Job} {turn : Turn} (hx : Takes turns latest exit id job)
    (he : turns[exit]? = some turn) (hc : turn.checksOut owner id = true)
    (hl : ∀ number other, RegisteredAt turns number id other → number ≤ latest)
    (hn : ∀ number other, HandedAt turns number id other → number ≤ exit)
    (hf : ∀ number later, turns[number]? = some later → exit < number →
      later.frees owner id = false)
    (ht : TakenBefore turns id turns.length)
    (ho : turns.countP (Turn.checksOut owner id) = turns.countP (Turn.frees owner id) + 1)
    (hq : ∀ task, task ≠ owner → IsQuits turns id task) :
    Attests turns id (some .out)

/-- What has been handed out for a registration stays so. -/
theorem Takes.concat (h : Takes turns first second id job) :
    Takes (turns ++ [turn]) first second id job :=
  takes_concat.mpr (.inl h)

/-- What has been taken stays taken. -/
theorem TakenBefore.concat {limit : Nat} (h : TakenBefore turns id limit)
    (hl : limit ≤ turns.length) : TakenBefore (turns ++ [turn]) id limit := by
  intro number job hr hlt
  rcases registeredAt_concat.mp hr with hr | ⟨rfl, -⟩
  · exact (h number job hr hlt).imp fun _ ht => ht.concat
  · exact absurd hlt (by omega)

/-- A turn that registers nothing under the id leaves nothing to be taken. -/
theorem TakenBefore.concat_length (h : TakenBefore turns id turns.length)
    (hr : ∀ job, turn.registers ≠ some (id, job)) :
    TakenBefore (turns ++ [turn]) id (turns ++ [turn]).length := by
  intro number job hreg _
  rcases registeredAt_concat.mp hreg with hreg | ⟨-, hreg⟩
  · exact (h number job hreg hreg.lt).imp fun _ ht => ht.concat
  · exact absurd hreg (hr job)

/-- A turn in which the task neither frees nor checks out the id. -/
theorem IsQuits.concat {task : Nat} (h : IsQuits turns id task)
    (hc : turn.checksOut task id = false) (hf : turn.frees task id = false) :
    IsQuits (turns ++ [turn]) id task := by
  rw [IsQuits, List.countP_append, List.countP_append, List.countP_singleton, List.countP_singleton,
    hc, hf, h]

theorem IsQuits.not_owes {task : Nat} (h : IsQuits turns id task) : ¬ Owes turns task id := by
  rw [Owes, h]
  exact Nat.lt_irrefl _

/-- A job is handed out only if it waits. -/
theorem Touches.held_of_handsOut {before after : Option Holding}
    (h : Touches turn id before after) (hh : (id, job) ∈ turn.handsOut) :
    before = some (.held job) := by
  cases h with
  | entered _ hn _ _ => exact absurd (hn ▸ hh) List.not_mem_nil
  | checkedOut _ hs _ _ =>
    rw [hs, List.mem_singleton] at hh
    rw [(Prod.mk.inj hh).2]
  | taken _ _ ho _ _ => rw [ho job hh]
  | freed _ hn _ _ => exact absurd (hn ▸ hh) List.not_mem_nil
  | quiet _ hn _ _ => exact absurd hh (hn job)

/-- The job that is handed out is that of the latest registration, and it has not
been handed out before. -/
theorem Attests.of_held (h : Attests turns id (some (.held job))) :
    ∃ latest, RegisteredAt turns latest id job ∧
      (∀ number other, RegisteredAt turns number id other → number ≤ latest) ∧
      ∀ number other, HandedAt turns number id other → number < latest := by
  cases h with
  | waiting hr hl hn _ _ => exact ⟨_, hr, hl, hn⟩

/-- Where a job has just been registered, it waits. -/
theorem Attests.entered (h : Attests turns id none) (hr : turn.registers = some (id, job))
    (hh : turn.handsOut = []) (hc : ∀ task, turn.checksOut task id = false)
    (hf : ∀ task, turn.frees task id = false) :
    Attests (turns ++ [turn]) id (some (.held job)) := by
  cases h with
  | away ht hq =>
    refine .waiting (registeredAt_concat.mpr (.inr ⟨rfl, hr⟩))
      (fun number other hreg => ?_) (fun number other hhand => ?_) (ht.concat (Nat.le_refl _))
      fun task => (hq task).concat (hc task) (hf task)
    · have := hreg.lt
      rw [List.length_append, List.length_singleton] at this
      omega
    · rcases handedAt_concat.mp hhand with hhand | ⟨-, hmem⟩
      · exact hhand.lt
      · exact absurd (hh ▸ hmem) List.not_mem_nil

/-- The last turn takes the job that waited. -/
theorem Attests.takes (h : Attests turns id (some (.held job))) (hh : (id, job) ∈ turn.handsOut) :
    ∃ latest, Takes (turns ++ [turn]) latest turns.length id job ∧
      (∀ number other, RegisteredAt turns number id other → number ≤ latest) ∧
      TakenBefore turns id latest := by
  cases h with
  | waiting hr hl _ ht _ => exact ⟨_, takes_concat.mpr (.inr ⟨rfl, hh, hr, hl⟩), hl, ht⟩

/-- Then all registrations of the id have been taken. -/
theorem Attests.takenBefore (h : Attests turns id (some (.held job)))
    (hh : (id, job) ∈ turn.handsOut) (hr : turn.registers = none) :
    TakenBefore (turns ++ [turn]) id (turns ++ [turn]).length := by
  obtain ⟨latest, hx, hl, ht⟩ := h.takes hh
  intro number other hreg _
  rcases registeredAt_concat.mp hreg with hreg | ⟨-, hnew⟩
  · rcases Nat.lt_or_eq_of_le (hl number other hreg) with hlt | rfl
    · exact (ht number other hreg hlt).imp fun _ ht => ht.concat
    · rw [RegisteredAt.unique (registeredAt_concat.mpr (.inl hreg)) hx.registered]
      exact ⟨_, hx⟩
  · exact absurd (hr.symm.trans hnew) (by simp)

/-- All tasks are quits about an id whose job waits. -/
theorem Attests.isQuits (h : Attests turns id (some (.held job))) (task : Nat) :
    IsQuits turns id task := by
  cases h with
  | waiting _ _ _ _ hq => exact hq task

/-- Where a job has just been checked out, it is out. -/
theorem Attests.checkedOut (h : Attests turns id (some (.held job))) (hr : turn.registers = none)
    (hh : turn.handsOut = [(id, job)])
    (hc : ∀ task, turn.checksOut task id = (turn.task == task))
    (hf : ∀ task, turn.frees task id = false) :
    Attests (turns ++ [turn]) id (some .out) := by
  have hmem : (id, job) ∈ turn.handsOut := hh ▸ List.mem_singleton.mpr rfl
  obtain ⟨latest, hx, hl, -⟩ := h.takes hmem
  have hown : turn.checksOut turn.task id = true := by rw [hc, beq_self_eq_true]
  refine @Attests.out _ _ turn.task latest _ job turn hx List.getElem?_concat_length hown
    (fun number other hreg => ?_) (fun number other hhand => ?_) (fun number later hsome hlt => ?_)
    (h.takenBefore hmem hr) ?_ fun task hne => ?_
  · rcases registeredAt_concat.mp hreg with hreg | ⟨-, hnew⟩
    · exact hl number other hreg
    · exact absurd (hr.symm.trans hnew) (by simp)
  · have := hhand.lt
    rw [List.length_append, List.length_singleton] at this
    omega
  · have := (List.getElem?_eq_some_iff.mp hsome).1
    rw [List.length_append, List.length_singleton] at this
    omega
  · have hq := h.isQuits turn.task
    rw [List.countP_append, List.countP_append, List.countP_singleton, List.countP_singleton, hc,
      hf, hq]
    simp
  · have hother : turn.checksOut task id = false := by
      rw [hc]
      exact beq_eq_false_iff_ne.mpr (Ne.symm hne)
    exact (h.isQuits task).concat hother (hf task)

/-- Where a job has just been taken away, nothing is filed. -/
theorem Attests.taken (h : Attests turns id (some (.held job))) (hr : turn.registers = none)
    (hh : (id, job) ∈ turn.handsOut) (hc : ∀ task, turn.checksOut task id = false)
    (hf : ∀ task, turn.frees task id = false) : Attests (turns ++ [turn]) id none :=
  .away (h.takenBefore hh hr) fun task => (h.isQuits task).concat (hc task) (hf task)

/-- A task owes to free an id only while it is marked. -/
theorem Attests.out_of_owes {holding : Option Holding} (h : Attests turns id holding) {task : Nat}
    (ho : Owes turns task id) : holding = some .out := by
  cases h with
  | away _ hq => exact absurd ho (hq task).not_owes
  | waiting _ _ _ _ hq => exact absurd ho (hq task).not_owes
  | out => rfl

/-- Where an id has just been freed by a task that owed it, nothing is filed. -/
theorem Attests.freed {before : Option Holding} (h : Attests turns id before)
    (ho : Owes turns turn.task id) (hr : turn.registers = none)
    (hc : ∀ task, turn.checksOut task id = false)
    (hf : ∀ task, turn.frees task id = (turn.task == task)) :
    Attests (turns ++ [turn]) id none := by
  obtain rfl := h.out_of_owes ho
  cases h with
  | @out owner latest exit job exitTurn hx he hcheck hl hn hfrees ht hone hq =>
    have howner : turn.task = owner :=
      Decidable.byContradiction fun hne => (hq turn.task hne).not_owes ho
    have hnone (job : Job) : turn.registers ≠ some (id, job) := by rw [hr]; simp
    refine .away (ht.concat_length hnone) fun task => ?_
    by_cases hne : task = owner
    · rw [IsQuits, List.countP_append, List.countP_append, List.countP_singleton,
        List.countP_singleton, hc, hf, hne, howner, hone]
      simp
    · have hother : turn.frees task id = false := by
        rw [hf, howner]
        exact beq_eq_false_iff_ne.mpr (Ne.symm hne)
      exact (hq task hne).concat (hc task) hother

/-- A turn that leaves the id alone leaves everything as it stands. -/
theorem Attests.quiet {holding : Option Holding} (h : Attests turns id holding)
    (hr : ∀ job, turn.registers ≠ some (id, job)) (hh : ∀ job, (id, job) ∉ turn.handsOut)
    (hc : ∀ task, turn.checksOut task id = false) (hf : ∀ task, turn.frees task id = false) :
    Attests (turns ++ [turn]) id holding := by
  have hreg {number : Nat} {other : Job} (hnew : RegisteredAt (turns ++ [turn]) number id other) :
      RegisteredAt turns number id other :=
    (registeredAt_concat.mp hnew).resolve_right fun hlast => hr other hlast.2
  have hhand {number : Nat} {other : Job} (hnew : HandedAt (turns ++ [turn]) number id other) :
      HandedAt turns number id other :=
    (handedAt_concat.mp hnew).resolve_right fun hlast => hh other hlast.2
  cases h with
  | away ht hq => exact .away (ht.concat_length hr) fun task => (hq task).concat (hc task) (hf task)
  | waiting hreg' hl hn ht hq =>
    exact .waiting (registeredAt_concat.mpr (.inl hreg'))
      (fun number other hnew => hl number other (hreg hnew))
      (fun number other hnew => hn number other (hhand hnew))
      (ht.concat (Nat.le_of_lt hreg'.lt)) fun task => (hq task).concat (hc task) (hf task)
  | @out owner latest exit job exitTurn hx he hcheck hl hn hfrees ht hone hq =>
    have he' : (turns ++ [turn])[exit]? = some exitTurn :=
      getElem?_concat_eq_some_iff.mpr (.inl he)
    refine @Attests.out _ _ owner latest exit job exitTurn hx.concat he' hcheck
      (fun number other hnew => hl number other (hreg hnew))
      (fun number other hnew => hn number other (hhand hnew)) (fun number later hsome hlt => ?_)
      (ht.concat_length hr) ?_ fun task hne => (hq task hne).concat (hc task) (hf task)
    · rcases getElem?_concat_eq_some_iff.mp hsome with hsome | ⟨-, rfl⟩
      · exact hfrees number later hsome hlt
      · exact hf owner
    · rw [List.countP_append, List.countP_append, List.countP_singleton, List.countP_singleton,
        hc, hf, hone]
      simp

/-- What a turn does to what is filed under an id, it does to how the id stands. -/
theorem Attests.step {before after : Option Holding} (h : Attests turns id before)
    (ht : Touches turn id before after)
    (ho : turn.frees turn.task id = true → Owes turns turn.task id) :
    Attests (turns ++ [turn]) id after := by
  cases ht with
  | entered hr hh hc hf => exact h.entered hr hh hc hf
  | checkedOut hr hh hc hf => exact h.checkedOut hr hh hc hf
  | taken hr hh _ hc hf => exact h.taken hr hh hc hf
  | freed hr _ hc hf => exact h.freed (ho (by rw [hf, beq_self_eq_true])) hr hc hf
  | quiet hr hh hc hf => exact h.quiet hr hh hc hf

end Turns

/-- The jobs that were registered at a desk have been handed out once, and none is lost. -/
structure Desk.HandsOutOnce (desk : Desk) : Prop where
  /-- What is handed out is the job of the latest registration of its id. -/
  known : ∀ second id job, HandedAt desk.turns second id job →
    ∃ first, Takes desk.turns first second id job
  /-- No registration is handed out by two turns. -/
  once : ∀ first second other id job found, Takes desk.turns first second id job →
    Takes desk.turns first other id found → second = other
  /-- No turn hands out an id twice. -/
  apart : ∀ turn ∈ desk.turns, (turn.handsOut.map (·.1)).Nodup
  /-- A job that has not been handed out waits where it was registered, and nothing
  was registered there since. -/
  kept : ∀ first id job, RegisteredAt desk.turns first id job →
    (∃ second, Takes desk.turns first second id job) ∨
      desk.roster.get? id = some (.held job) ∧
        ∀ later other, RegisteredAt desk.turns later id other → later ≤ first
  /-- An id is marked exactly while a task owes to free it. -/
  marked : ∀ id, desk.roster.get? id = some .out ↔ ∃ task, Owes desk.turns task id
  /-- That is one task. -/
  alone : ∀ id task other, Owes desk.turns task id → Owes desk.turns other id → task = other
  /-- Until it does, the id is registered, and whoever asks for anything else
  registers nothing under it, is not given it, and leaves it marked. -/
  guarded : ∀ id, desk.roster.get? id = some .out → desk.roster.contains id = true ∧
    ∀ visit : Visit, visit.ask ≠ .free id →
      (∀ job, (desk.roster.turn visit).registers ≠ some (id, job)) ∧
        (∀ job, (id, job) ∉ (desk.roster.turn visit).handsOut) ∧
        (desk.roster.attend visit.ask).2.get? id = some .out
  /-- When it does, it ends the latest registration of the id, whose job it was given
  itself and has not freed since. Nothing else is taken away. -/
  freed : ∀ task id, Owes desk.turns task id →
    (∃ first second job turn, Takes desk.turns first second id job ∧
      desk.turns[second]? = some turn ∧ turn.checksOut task id = true ∧
      (∀ later found, desk.turns[later]? = some found → second < later →
        found.frees task id = false) ∧
      ∀ later other, RegisteredAt desk.turns later id other → later ≤ first) ∧
    (desk.roster.attend (.free id)).1 = .freed true ∧
    (desk.roster.attend (.free id)).2.get? id = none ∧
    ∀ other, other ≠ id → (desk.roster.attend (.free id)).2.get? other = desk.roster.get? other

/-- What holds at a desk where all visits were allowed. -/
structure Desk.IsFair (desk : Desk) : Prop where
  /-- Each id is registered once. -/
  nodup : desk.roster.keys.Nodup
  /-- What is filed under each id follows from the turns. -/
  attested : ∀ id, Attests desk.turns id (desk.roster.get? id)
  /-- What was handed out had been registered. -/
  known : ∀ second id job, HandedAt desk.turns second id job →
    ∃ first, Takes desk.turns first second id job
  /-- No registration was handed out by two turns. -/
  once : ∀ first second other id job found, Takes desk.turns first second id job →
    Takes desk.turns first other id found → second = other
  /-- No turn has handed out an id twice. -/
  apart : ∀ turn ∈ desk.turns, (turn.handsOut.map (·.1)).Nodup

section Desks

variable {desk : Desk}

/-- No turn has been taken. -/
theorem isFair_opened : Desk.opened.IsFair where
  nodup := List.nodup_nil
  attested id := by
    refine .away (fun number job hr => ?_) fun _ => rfl
    exact absurd hr.lt (Nat.not_lt_zero _)
  known second id job h := absurd h.lt (Nat.not_lt_zero _)
  once first second other id job found h := absurd h.handed.lt (Nat.not_lt_zero _)
  apart turn h := absurd h List.not_mem_nil

/-- The last turn does not hand out what an earlier one has. -/
theorem Desk.IsFair.not_takes (h : desk.IsFair) {visit : Visit} {id : String} {job found : Job}
    {first second : Nat} (hh : (id, job) ∈ (desk.roster.turn visit).handsOut)
    (hlatest : ∀ number other, RegisteredAt desk.turns number id other → number ≤ first) :
    ¬ Takes desk.turns first second id found := by
  intro ht
  have hheld := (Roster.touches h.nodup visit id).held_of_handsOut hh
  obtain ⟨latest, hr, -, hn⟩ := Attests.of_held (hheld ▸ h.attested id)
  have hle := hlatest latest job hr
  have hlt := hn second found ht.handed
  have := ht.later
  omega

/-- One visit. -/
theorem Desk.IsFair.serve (h : desk.IsFair) {visit : Visit} (ha : visit.IsAllowed desk.turns) :
    (desk.serve visit).IsFair where
  nodup := Roster.nodup_keys_attend h.nodup visit.ask
  attested id := by
    refine (h.attested id).step (Roster.touches h.nodup visit id) fun hf => ?_
    obtain ⟨task, ask⟩ := visit
    cases ask with
    | free target =>
      have hid : target = id := by simpa [Roster.turn, Turn.frees] using hf
      exact hid ▸ ha
    | _ => exact absurd hf (by simp [Roster.turn, Turn.frees])
  known second id job hhand := by
    rcases handedAt_concat.mp hhand with hhand | ⟨rfl, hmem⟩
    · exact (h.known second id job hhand).imp fun _ ht => ht.concat
    · have hheld := (Roster.touches h.nodup visit id).held_of_handsOut hmem
      obtain ⟨latest, ht, -⟩ := Attests.takes (hheld ▸ h.attested id) hmem
      exact ⟨latest, ht⟩
  once first second other id job found hs ho := by
    rcases takes_concat.mp hs with hs | ⟨hsl, hsm, -, hslast⟩ <;>
      rcases takes_concat.mp ho with ho | ⟨hol, hom, -, holast⟩
    · exact h.once first second other id job found hs ho
    · exact absurd hs (h.not_takes hom holast)
    · exact absurd ho (h.not_takes hsm hslast)
    · exact hsl.trans hol.symm
  apart turn hm := by
    rcases List.mem_append.mp hm with hm | hm
    · exact h.apart turn hm
    · exact List.mem_singleton.mp hm ▸ Roster.nodup_handsOut h.nodup visit

/-- Any number of them. -/
theorem Desk.IsFair.serveAll {visits : List Visit} (h : desk.IsFair) (ho : desk.Obeys visits) :
    (desk.serveAll visits).IsFair := by
  induction visits generalizing desk with
  | nil => exact h
  | cons visit rest ih => exact ih (h.serve ho.1) ho.2

/-- Whoever does not free a marked id leaves it alone. -/
theorem Desk.IsFair.quiet_of_out (h : desk.IsFair) {id : String}
    (ho : desk.roster.get? id = some .out) {visit : Visit} (hv : visit.ask ≠ .free id) :
    (∀ job, (desk.roster.turn visit).registers ≠ some (id, job)) ∧
      (∀ job, (id, job) ∉ (desk.roster.turn visit).handsOut) ∧
      (desk.roster.attend visit.ask).2.get? id = some .out := by
  have ht := Roster.touches h.nodup visit id
  rw [ho] at ht
  generalize (desk.roster.attend visit.ask).2.get? id = after at ht
  cases ht with
  | freed _ _ _ hf =>
    obtain ⟨task, ask⟩ := visit
    have hfrees := hf task
    cases ask with
    | free target => exact absurd (by simpa [Roster.turn, Turn.frees] using hfrees) hv
    | _ => exact absurd hfrees (by simp [Roster.turn, Turn.frees])
  | quiet hr hh _ _ => exact ⟨hr, hh, rfl⟩

/-- A registration that nobody took is still there. -/
theorem Desk.IsFair.kept (h : desk.IsFair) {first : Nat} {id : String} {job : Job}
    (hr : RegisteredAt desk.turns first id job) :
    (∃ second, Takes desk.turns first second id job) ∨
      desk.roster.get? id = some (.held job) ∧
        ∀ later other, RegisteredAt desk.turns later id other → later ≤ first := by
  have hs := h.attested id
  generalize desk.roster.get? id = holding at hs
  cases hs with
  | away ht _ => exact .inl (ht first job hr hr.lt)
  | @waiting latest found hfound hl _ ht _ =>
    rcases Nat.lt_or_eq_of_le (hl first job hr) with hlt | rfl
    · exact .inl (ht first job hr hlt)
    · exact .inr ⟨by rw [hr.unique hfound], hl⟩
  | out _ _ _ _ _ _ ht _ _ => exact .inl (ht first job hr hr.lt)

/-- An id is freed by the task that was given the job of its latest registration. -/
theorem Desk.IsFair.freed (h : desk.IsFair) {task : Nat} {id : String}
    (ho : Owes desk.turns task id) :
    ∃ first second job turn, Takes desk.turns first second id job ∧
      desk.turns[second]? = some turn ∧ turn.checksOut task id = true ∧
      (∀ later found, desk.turns[later]? = some found → second < later →
        found.frees task id = false) ∧
      ∀ later other, RegisteredAt desk.turns later id other → later ≤ first := by
  have hs := h.attested id
  rw [hs.out_of_owes ho] at hs
  cases hs with
  | @out owner latest exit job turn hx he hc hl _ hf _ _ hq =>
    obtain rfl : task = owner := Decidable.byContradiction fun hne => (hq task hne).not_owes ho
    exact ⟨latest, exit, job, turn, hx, he, hc, hf, hl⟩

/-- A marked id has one task that owes to free it. -/
theorem Desk.IsFair.owner (h : desk.IsFair) {id : String}
    (ho : desk.roster.get? id = some .out) :
    ∃ owner, Owes desk.turns owner id ∧ ∀ task, Owes desk.turns task id → task = owner := by
  have hs := h.attested id
  rw [ho] at hs
  cases hs with
  | @out owner latest exit job turn _ _ _ _ _ _ _ hone hq =>
    refine ⟨owner, ?_, fun task howes => ?_⟩
    · rw [Owes, hone]
      exact Nat.lt_succ_self _
    · exact Decidable.byContradiction fun hne => (hq task hne).not_owes howes

/-- What holds at such a desk is what it promises. -/
theorem Desk.IsFair.handsOutOnce (h : desk.IsFair) : desk.HandsOutOnce where
  known := h.known
  once := h.once
  apart := h.apart
  kept _ _ _ := h.kept
  marked id := by
    refine ⟨fun ho => ?_, fun ⟨task, ho⟩ => (h.attested id).out_of_owes ho⟩
    obtain ⟨owner, howes, -⟩ := h.owner ho
    exact ⟨owner, howes⟩
  alone id task other ht ho := by
    obtain ⟨owner, -, honly⟩ := h.owner ((h.attested id).out_of_owes ht)
    exact (honly task ht).trans (honly other ho).symm
  guarded id ho := by
    refine ⟨?_, fun visit hv => h.quiet_of_out ho hv⟩
    rw [Keyed.contains, ho]
    rfl
  freed task id ho := by
    refine ⟨h.freed ho, ?_, Keyed.get?_erase_self _ _, fun other hne =>
      Keyed.get?_erase_of_ne _ hne⟩
    rw [Roster.attend, Keyed.contains, (h.attested id).out_of_owes ho]
    rfl

/-- However many tasks come in whatever order: if ids are freed only by tasks that have
them out, each job that was registered is handed out once at most, and none is lost. -/
theorem Desk.handsOutOnce_serveAll (visits : List Visit) (h : opened.Obeys visits) :
    (opened.serveAll visits).HandsOutOnce :=
  (isFair_opened.serveAll h).handsOutOnce

/-- While one task has an id out, others try to register it, to take it and to take all.
When the id is free again one of them registers it, and the first task gets it. -/
def crossingVisits : List Visit :=
  [⟨1, .enter "a" (.plain "first" "o" "d")⟩, ⟨2, .checkOut "a"⟩,
    ⟨3, .enter "a" (.plain "second" "o" "d")⟩, ⟨3, .takeBack "a"⟩, ⟨4, .takeAll⟩,
    ⟨3, .checkOut "a"⟩, ⟨2, .free "a"⟩, ⟨3, .enter "a" (.plain "third" "o" "d")⟩,
    ⟨2, .checkOut "a"⟩, ⟨4, .takeAll⟩]

theorem Desk.handsOutOnce_crossingVisits :
    opened.Obeys crossingVisits ∧ (opened.serveAll crossingVisits).HandsOutOnce ∧
      (opened.serveAll crossingVisits).turns.map (fun turn => turn.handsOut.map (·.2.label))
        = [[], ["first"], [], [], [], [], [], [], ["third"], []] := by
  have hobeys : opened.Obeys crossingVisits := by decide
  exact ⟨hobeys, handsOutOnce_serveAll _ hobeys, by decide⟩

end Desks

end ReplLink.Routing
