import ReplLink.Routing.Roster

/-!
# What a roster holds

A roster lists its ids in order, each once. What waits and what is out are two
parts of the list, and each operation on the roster moves one job, or all that
wait, from one part to the other or away.
-/

namespace ReplLink

open ReplLink.Routing

namespace Keyed

variable {α : Type}

/-- Filing a value in front of others leaves the others as they are. -/
theorem filter_insertIn (key : String) (value : α) (list : List (String × α)) :
    (insertIn key value list).filter (·.1 ≠ key) = list.filter (·.1 ≠ key) := by
  induction list with
  | nil => exact List.filter_cons_of_neg (by simp)
  | cons head rest ih =>
    rw [insertIn]
    split
    · exact List.filter_cons_of_neg (by simp)
    · rw [List.filter_cons, List.filter_cons, ih]

/-- What is filed under a name goes with the name. -/
@[simp] theorem erase_put (map : Keyed α) (key : String) (value : α) :
    (map.put key value).erase key = map.erase key := by
  rw [erase, put, filter_insertIn, erase, List.filter_filter]
  simp only [Bool.and_self]

/-- Taking away several names leaves what is filed under the others. -/
theorem get?_foldl_erase (map : Keyed α) (keys : List String) (key : String) :
    (keys.foldl erase map).get? key = if key ∈ keys then none else map.get? key := by
  induction keys generalizing map with
  | nil => rfl
  | cons head rest ih =>
    rw [List.foldl_cons, ih]
    by_cases hk : key = head
    · rw [hk, get?_erase_self, if_pos List.mem_cons_self, ite_self]
    · rw [get?_erase_of_ne map hk]
      simp only [List.mem_cons, hk, false_or]

/-- Filing puts one pair to those that are there. -/
theorem insertIn_perm (key : String) (value : α) (list : List (String × α)) :
    (insertIn key value list).Perm ((key, value) :: list) := by
  induction list with
  | nil => exact List.Perm.refl _
  | cons head rest ih =>
    rw [insertIn]
    split
    · exact List.Perm.refl _
    · exact (ih.cons head).trans (List.Perm.swap _ _ _)

/-- Putting a value under a key takes the place of the old value, up to the order. -/
theorem put_perm (map : Keyed α) (key : String) (value : α) :
    (map.put key value).entries.Perm ((key, value) :: (map.erase key).entries) :=
  insertIn_perm key value _

/-- A name under which nothing is filed may be taken away. -/
theorem erase_of_get?_none {map : Keyed α} {key : String} (h : map.get? key = none) :
    map.erase key = map := by
  suffices all : ∀ list : List (String × α), lookIn key list = none →
      list.filter (·.1 ≠ key) = list from congrArg Keyed.mk (all map.entries h)
  intro list hn
  induction list with
  | nil => rfl
  | cons head rest ih =>
    rw [lookIn] at hn
    split at hn
    · exact absurd hn (by simp)
    · next hne =>
      rw [List.filter_cons_of_pos (by simpa using Ne.symm hne), ih hn]

/-- Something is filed under the names in use. -/
theorem mem_keys_iff {map : Keyed α} {key : String} :
    key ∈ map.keys ↔ ∃ value, map.get? key = some value := by
  suffices all : ∀ list : List (String × α),
      key ∈ list.map (·.1) ↔ ∃ value, lookIn key list = some value from all map.entries
  intro list
  induction list with
  | nil => simp [lookIn]
  | cons head rest ih =>
    rw [List.map_cons, List.mem_cons, ih, lookIn]
    split
    · next he => simp [he]
    · next he => simp [he]

/-- With each name once, what is found under a name is one pair of the list. -/
theorem perm_of_get? {map : Keyed α} (hn : map.keys.Nodup) {key : String} {value : α}
    (h : map.get? key = some value) :
    map.entries.Perm ((key, value) :: (map.erase key).entries) := by
  suffices all : ∀ list : List (String × α), (list.map (·.1)).Nodup →
      lookIn key list = some value →
      list.Perm ((key, value) :: list.filter (·.1 ≠ key)) from all map.entries hn h
  intro list hn h
  induction list with
  | nil => exact absurd h (by simp [lookIn])
  | cons head rest ih =>
    rw [List.map_cons, List.nodup_cons] at hn
    rw [lookIn] at h
    split at h
    · next he =>
      have hrest : rest.filter (·.1 ≠ key) = rest := by
        refine List.filter_eq_self.mpr fun pair hp => ?_
        have hne : pair.1 ≠ key := fun hk => hn.1 (he ▸ hk ▸ List.mem_map_of_mem hp)
        simpa using hne
      rw [List.filter_cons_of_neg (by simpa using he.symm), hrest, he, ← Option.some.inj h]
    · next hne =>
      rw [List.filter_cons_of_pos (by simpa using Ne.symm hne)]
      exact ((ih hn.2 h).cons head).trans (List.Perm.swap _ _ _)

/-- A pair of the list is what is found under its name. -/
theorem get?_of_mem {map : Keyed α} (hn : map.keys.Nodup) {key : String} {value : α}
    (h : (key, value) ∈ map.entries) : map.get? key = some value := by
  obtain ⟨found, hf⟩ := mem_keys_iff.mp (List.mem_map_of_mem h)
  have hp := perm_of_get? hn hf
  have hm := hp.mem_iff.mp h
  rcases List.mem_cons.mp hm with he | he
  · rw [hf, (Prod.mk.inj he).2]
  · exact absurd (List.mem_filter.mp he).2 (by simp)

/-- Keys stay apart when one is erased. -/
theorem nodup_keys_erase {map : Keyed α} (hn : map.keys.Nodup) (key : String) :
    (map.erase key).keys.Nodup :=
  hn.sublist (List.filter_sublist.map _)

/-- Keys stay apart when a value is put under one of them. -/
theorem nodup_keys_put {map : Keyed α} (hn : map.keys.Nodup) (key : String) (value : α) :
    (map.put key value).keys.Nodup := by
  have hp := (put_perm map key value).map (·.1)
  refine hp.nodup_iff.mpr (List.nodup_cons.mpr ⟨fun hm => ?_, nodup_keys_erase hn key⟩)
  obtain ⟨other, ho⟩ := mem_keys_iff.mp hm
  rw [get?_erase_self] at ho
  exact absurd ho (by simp)

end Keyed

namespace Routing

/-- The job that waits for its response under an id. -/
def Roster.heldUnder (roster : Roster) (id : String) : Option Job :=
  match roster.get? id with
  | some (.held job) => some job
  | _ => none

/-- A job that waits under an id is registered there. -/
theorem Roster.get?_of_heldUnder {roster : Roster} {id : String} {job : Job}
    (h : roster.heldUnder id = some job) : roster.get? id = some (.held job) := by
  unfold heldUnder at h
  split at h
  · next hg => rw [hg, Option.some.inj h]
  · exact absurd h (by simp)

/-- A job that waits is handed out, and its place is marked. -/
theorem Roster.checkOut_eq (roster : Roster) (id : String) :
    roster.checkOut id = (roster.heldUnder id).map fun job => (job, roster.put id .out) := by
  unfold checkOut heldUnder
  match roster.get? id with
  | some (.held job) => rfl
  | some .out => rfl
  | none => rfl

/-- Nothing waits under an id that is erased. -/
theorem Roster.heldUnder_erase_self (roster : Roster) (id : String) :
    Roster.heldUnder (roster.erase id) id = none := by
  rw [heldUnder, Keyed.get?_erase_self]

/-- The other ids keep their jobs. -/
theorem Roster.heldUnder_erase_of_ne (roster : Roster) {id other : String} (h : other ≠ id) :
    Roster.heldUnder (roster.erase id) other = roster.heldUnder other := by
  rw [heldUnder, heldUnder, Keyed.get?_erase_of_ne roster h]

/-- A job that is registered waits under its id. -/
theorem Roster.heldUnder_put {roster : Roster} {id other : String} {job found : Job}
    (h : Roster.heldUnder (roster.put id (.held job)) other = some found) :
    other = id ∧ found = job ∨ roster.heldUnder other = some found := by
  by_cases ho : other = id
  · rw [ho, heldUnder, Keyed.get?_put_self] at h
    exact .inl ⟨ho, (Option.some.inj h).symm⟩
  · rw [heldUnder, Keyed.get?_put_of_ne _ _ ho] at h
    exact .inr h

/-- What waits when an id is taken away has waited before. -/
theorem Roster.heldUnder_of_erase {roster : Roster} {id other : String} {found : Job}
    (h : Roster.heldUnder (roster.erase id) other = some found) :
    other ≠ id ∧ roster.heldUnder other = some found := by
  by_cases ho : other = id
  · rw [ho, heldUnder_erase_self] at h
    exact absurd h (by simp)
  · rw [heldUnder_erase_of_ne roster ho] at h
    exact ⟨ho, h⟩

namespace Roster

/-- The job of an entry that waits. -/
def waitingOf : String × Holding → Option (String × Job)
  | (id, .held job) => some (id, job)
  | (_, .out) => none

/-- The id of an entry whose job is out. -/
def outOf : String × Holding → Option String
  | (_, .held _) => none
  | (id, .out) => some id

/-- The ids of the jobs whose callbacks run. -/
def outIds (roster : Roster) : List String := roster.entries.filterMap outOf

/-- The jobs that wait are read off the entries one by one. -/
theorem waiting_eq (roster : Roster) : roster.waiting = roster.entries.filterMap waitingOf := by
  rw [waiting]
  congr 1
  funext entry
  obtain ⟨id, holding⟩ := entry
  cases holding <;> rfl

/-- Filing adds what the new entry has to a part of the list. -/
theorem filterMap_put {β : Type} (part : String × Holding → Option β) (roster : Roster)
    (id : String) (holding : Holding) :
    ((roster.put id holding).entries.filterMap part).Perm
      ((part (id, holding)).toList ++ (roster.erase id).entries.filterMap part) := by
  have hp := (Keyed.put_perm roster id holding).filterMap part
  rw [List.filterMap_cons] at hp
  cases hv : part (id, holding) with
  | none => rwa [hv] at hp
  | some value => rwa [hv] at hp

/-- Taking away takes what the entry has from a part of the list. -/
theorem filterMap_erase {β : Type} (part : String × Holding → Option β) {roster : Roster}
    (hn : roster.keys.Nodup) {id : String} {holding : Holding}
    (h : roster.get? id = some holding) :
    (roster.entries.filterMap part).Perm
      ((part (id, holding)).toList ++ (roster.erase id).entries.filterMap part) := by
  have hp := (Keyed.perm_of_get? hn h).filterMap part
  rw [List.filterMap_cons] at hp
  cases hv : part (id, holding) with
  | none => rwa [hv] at hp
  | some value => rwa [hv] at hp

/-- A job that is registered waits. -/
theorem waiting_enter {roster : Roster} {id : String} (h : roster.get? id = none) (job : Job) :
    (waiting (roster.put id (.held job))).Perm ((id, job) :: roster.waiting) := by
  have hp := filterMap_put waitingOf roster id (.held job)
  rw [Keyed.erase_of_get?_none h] at hp
  rwa [waiting_eq, waiting_eq]

/-- A new registration leaves the ids that are out. -/
theorem outIds_enter {roster : Roster} {id : String} (h : roster.get? id = none) (job : Job) :
    (outIds (roster.put id (.held job))).Perm roster.outIds := by
  have hp := filterMap_put outOf roster id (.held job)
  rw [Keyed.erase_of_get?_none h] at hp
  exact hp

/-- A job that is checked out waits no longer. -/
theorem waiting_checkOut {roster : Roster} (hn : roster.keys.Nodup) {id : String} {job : Job}
    (h : roster.heldUnder id = some job) :
    roster.waiting.Perm ((id, job) :: waiting (roster.put id .out)) := by
  have hold := filterMap_erase waitingOf hn (get?_of_heldUnder h)
  have hnew := filterMap_put waitingOf roster id .out
  rw [waiting_eq, waiting_eq]
  exact hold.trans (hnew.symm.cons (id, job))

/-- A job that is checked out puts its id among those that are out. -/
theorem outIds_checkOut {roster : Roster} (hn : roster.keys.Nodup) {id : String} {job : Job}
    (h : roster.heldUnder id = some job) :
    (outIds (roster.put id .out)).Perm (id :: roster.outIds) := by
  have hold := filterMap_erase outOf hn (get?_of_heldUnder h)
  have hnew := filterMap_put outOf roster id .out
  exact hnew.trans (hold.symm.cons id)

/-- A job that was out is gone when its id is freed. -/
theorem waiting_free {roster : Roster} (hn : roster.keys.Nodup) {id : String}
    (h : roster.get? id = some .out) : (waiting (roster.erase id)).Perm roster.waiting := by
  rw [waiting_eq, waiting_eq]
  exact (filterMap_erase waitingOf hn h).symm

/-- An id that is freed was out. -/
theorem outIds_free {roster : Roster} (hn : roster.keys.Nodup) {id : String}
    (h : roster.get? id = some .out) : roster.outIds.Perm (id :: outIds (roster.erase id)) :=
  filterMap_erase outOf hn h

/-- A job that is taken away waits no longer. -/
theorem waiting_takeAway {roster : Roster} (hn : roster.keys.Nodup) {id : String} {job : Job}
    (h : roster.heldUnder id = some job) :
    roster.waiting.Perm ((id, job) :: waiting (roster.erase id)) := by
  rw [waiting_eq, waiting_eq]
  exact filterMap_erase waitingOf hn (get?_of_heldUnder h)

/-- Taking away a job that waits leaves the ids that are out. -/
theorem outIds_takeAway {roster : Roster} (hn : roster.keys.Nodup) {id : String} {job : Job}
    (h : roster.heldUnder id = some job) : roster.outIds.Perm (outIds (roster.erase id)) :=
  filterMap_erase outOf hn (get?_of_heldUnder h)

/-- An id is registered for a job that waits or for one that is out. -/
theorem keys_perm (roster : Roster) :
    roster.keys.Perm (roster.waiting.map (·.1) ++ roster.outIds) := by
  rw [waiting_eq, outIds, Keyed.keys]
  induction roster.entries with
  | nil => exact List.Perm.refl _
  | cons entry rest ih =>
    obtain ⟨id, holding⟩ := entry
    cases holding with
    | held job => exact ih.cons id
    | out => exact (ih.cons id).trans List.perm_middle.symm

/-- When all that wait are taken, only the others are left. -/
theorem waiting_checkedOut (roster : Roster) : waiting (checkedOut roster) = [] := by
  rw [waiting_eq, checkedOut, List.filterMap_filter]
  refine List.filterMap_eq_nil_iff.mpr fun entry _ => ?_
  obtain ⟨id, holding⟩ := entry
  cases holding <;> rfl

/-- Taking away all jobs that wait leaves the ids that are out. -/
theorem outIds_checkedOut (roster : Roster) : outIds (checkedOut roster) = roster.outIds := by
  rw [outIds, outIds, checkedOut, List.filterMap_filter]
  congr 1
  funext entry
  obtain ⟨id, holding⟩ := entry
  cases holding <;> rfl

/-- No id is there twice when all jobs that wait are taken away. -/
theorem nodup_keys_checkedOut {roster : Roster} (hn : roster.keys.Nodup) :
    (checkedOut roster).keys.Nodup :=
  hn.sublist (List.filter_sublist.map _)

/-- The ids that are out are marked so. -/
theorem mem_outIds_iff {roster : Roster} (hn : roster.keys.Nodup) {id : String} :
    id ∈ roster.outIds ↔ roster.get? id = some .out := by
  constructor
  · intro h
    obtain ⟨⟨other, holding⟩, he, ho⟩ := List.mem_filterMap.mp h
    cases holding with
    | held job => exact absurd ho (by simp [outOf])
    | out =>
      obtain rfl := Option.some.inj ho
      exact Keyed.get?_of_mem hn he
  · intro h
    exact (outIds_free hn h).mem_iff.mpr List.mem_cons_self

/-- The jobs that wait are held under their ids. -/
theorem mem_waiting_iff {roster : Roster} (hn : roster.keys.Nodup) {id : String} {job : Job} :
    (id, job) ∈ roster.waiting ↔ roster.heldUnder id = some job := by
  constructor
  · intro h
    rw [waiting_eq] at h
    obtain ⟨⟨other, holding⟩, he, hw⟩ := List.mem_filterMap.mp h
    cases holding with
    | out => exact absurd hw (by simp [waitingOf])
    | held held =>
      obtain ⟨rfl, rfl⟩ := Prod.mk.inj (Option.some.inj hw)
      rw [heldUnder, Keyed.get?_of_mem hn he]
  · intro h
    exact (waiting_checkOut hn h).mem_iff.mpr List.mem_cons_self

end Roster

end Routing

end ReplLink
