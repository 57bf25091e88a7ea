import ReplLink.Routing.Job

/-!
# The roster of jobs

Every request is registered under its id before its line is written, and stays
registered until it has ended. While its callbacks run a job is out of the
roster, but its id is not: the place is marked as being resolved, so that no
other response, registration or closing of the connection can lay hands on it.
Each job is handed out once.
-/

namespace ReplLink.Routing

/-- What is filed under an id. -/
inductive Holding where
  /-- A job that waits for its response. -/
  | held (job : Job)
  /-- The job is out, its callbacks run. -/
  | out

/-- The registered ids with what is filed under them. -/
abbrev Roster := Keyed Holding

namespace Roster

/-- Registers a job, unless the id is taken. -/
def enter? (roster : Roster) (id : String) (job : Job) : Option Roster :=
  if roster.contains id then none else some (roster.put id (.held job))

/-- Takes out the job that waits under an id and marks its place. -/
def checkOut (roster : Roster) (id : String) : Option (Job × Roster) :=
  match roster.get? id with
  | some (.held job) => some (job, roster.put id .out)
  | _ => none

/-- Frees an id at the end of its job. -/
def free (roster : Roster) (id : String) : Roster := roster.erase id

/-- Takes back a job whose request was never sent. -/
def takeBack (roster : Roster) (id : String) : Option (Job × Roster) :=
  match roster.get? id with
  | some (.held job) => some (job, roster.erase id)
  | _ => none

/-- The jobs that wait, with their ids in order. -/
def waiting (roster : Roster) : List (String × Job) :=
  roster.entries.filterMap fun (id, holding) =>
    match holding with
    | .held job => some (id, job)
    | .out => none

/-- The places of the jobs whose callbacks run. -/
def checkedOut (roster : Roster) : Roster :=
  ⟨roster.entries.filter fun (_, holding) =>
    match holding with
    | .held _ => false
    | .out => true⟩

/-- Takes out every job that waits, in the order of the ids. -/
def takeAll (roster : Roster) : List (String × Job) × Roster :=
  (roster.waiting, roster.checkedOut)

/-- What a job weighs that may be out. -/
def holdingWeight : Holding → Nat
  | .held job => job.weight
  | .out => 0

/-- What the jobs of some entries weigh. -/
def entriesWeight : List (String × Holding) → Nat
  | [] => 0
  | (_, holding) :: rest => holdingWeight holding + entriesWeight rest

/-- What all registered jobs weigh. -/
def weight (roster : Roster) : Nat := entriesWeight roster.entries

/-- What a list of jobs weighs. -/
def jobsWeight : List (String × Job) → Nat
  | [] => 0
  | (_, job) :: rest => job.weight + jobsWeight rest

theorem entriesWeight_insertIn (id : String) (holding : Holding)
    (entries : List (String × Holding)) :
    entriesWeight (Keyed.insertIn id holding entries)
      = holdingWeight holding + entriesWeight entries := by
  induction entries with
  | nil => simp [Keyed.insertIn, entriesWeight]
  | cons head rest ih =>
    simp only [Keyed.insertIn]
    split <;> simp only [entriesWeight]
    omega

theorem weight_erase_le (roster : Roster) (id : String) :
    weight (roster.erase id) ≤ weight roster := by
  suffices h : ∀ entries : List (String × Holding),
      entriesWeight (entries.filter (·.1 ≠ id)) ≤ entriesWeight entries from h _
  intro entries
  induction entries with
  | nil => simp
  | cons head rest ih =>
    rw [List.filter_cons]
    split <;> simp only [entriesWeight] <;> omega

/-- An id takes the weight of its job along. -/
theorem weight_erase_of_get? {roster : Roster} {id : String} {holding : Holding}
    (h : roster.get? id = some holding) :
    holdingWeight holding + weight (roster.erase id) ≤ weight roster := by
  suffices all : ∀ entries : List (String × Holding), Keyed.lookIn id entries = some holding →
      holdingWeight holding + entriesWeight (entries.filter (·.1 ≠ id))
        ≤ entriesWeight entries from
    all _ h
  intro entries
  induction entries with
  | nil => simp [Keyed.lookIn]
  | cons head rest ih =>
    intro h
    have below := weight_erase_le ⟨rest⟩ id
    simp only [weight, Keyed.erase] at below
    simp only [Keyed.lookIn] at h
    split at h
    · next same =>
      obtain rfl := Option.some.inj h
      rw [List.filter_cons_of_neg (by simpa using same.symm)]
      simp only [entriesWeight]
      omega
    · next other =>
      rw [List.filter_cons_of_pos (by simpa using Ne.symm other)]
      have := ih h
      simp only [entriesWeight]
      omega

theorem weight_register?_le {roster after : Roster} {id : String} {job : Job}
    (h : enter? roster id job = some after) : weight after ≤ weight roster + job.weight := by
  unfold enter? at h
  split at h
  · simp at h
  · obtain rfl := Option.some.inj h
    have := weight_erase_le roster id
    simp only [weight, Keyed.put, entriesWeight_insertIn, holdingWeight] at this ⊢
    omega

theorem weight_checkOut_le {roster after : Roster} {id : String} {job : Job}
    (h : checkOut roster id = some (job, after)) :
    job.weight + weight after ≤ weight roster := by
  unfold checkOut at h
  split at h
  · next found =>
    simp only [Option.some.injEq, Prod.mk.injEq] at h
    obtain ⟨rfl, rfl⟩ := h
    have := weight_erase_of_get? found
    simp only [weight, Keyed.put, entriesWeight_insertIn, holdingWeight] at this ⊢
    omega
  · simp at h

theorem weight_takeAll_le (roster : Roster) :
    jobsWeight (takeAll roster).1 + weight (takeAll roster).2 ≤ weight roster := by
  suffices all : ∀ entries : List (String × Holding),
      jobsWeight (waiting ⟨entries⟩) + weight (checkedOut ⟨entries⟩)
        ≤ entriesWeight entries from
    all _
  intro entries
  induction entries with
  | nil => simp [waiting, checkedOut, jobsWeight, weight, entriesWeight]
  | cons head rest ih =>
    obtain ⟨id, holding⟩ := head
    cases holding with
    | held job =>
      simp_all [waiting, checkedOut, jobsWeight, weight, entriesWeight, holdingWeight]
      omega
    | out => simp_all [waiting, checkedOut, weight, entriesWeight, holdingWeight]

end Roster

end ReplLink.Routing
