import ReplLink.Proofs.Routing.Ledger
import ReplLink.Proofs.Text.ByteOrder
import Mathlib.Data.String.Basic

/-!
# Ids in ascending order

A roster lists its ids in ascending order, whatever is registered, resolved and freed and in
whatever order that happens. So the jobs that wait are ended in the order of the bytes of their
ids. `Orderly` is what holds of a machine at any time: `Sound`, and this.
-/

namespace ReplLink

open ReplLink.Text ReplLink.Routing

namespace Keyed

variable {α : Type} {map : Keyed α}

/-- The names in use are listed in ascending order, each once. -/
def IsAscending (map : Keyed α) : Prop := map.keys.Pairwise (· < ·)

theorem isAscending_empty : (empty : Keyed α).IsAscending := List.Pairwise.nil

theorem IsAscending.filter (h : map.IsAscending) (p : String × α → Bool) :
    IsAscending ⟨map.entries.filter p⟩ :=
  List.Pairwise.sublist (List.filter_sublist.map _) h

theorem IsAscending.erase (h : map.IsAscending) (key : String) : (map.erase key).IsAscending :=
  h.filter _

/-- A value is filed between the names before and the names behind its own. -/
theorem isAscending_insertIn {key : String} (value : α) {list : List (String × α)}
    (h : (list.map (·.1)).Pairwise (· < ·)) (hne : ∀ pair ∈ list, pair.1 ≠ key) :
    ((insertIn key value list).map (·.1)).Pairwise (· < ·) := by
  induction list with
  | nil => exact List.pairwise_singleton _ _
  | cons head rest ih =>
    rw [List.map_cons, List.pairwise_cons] at h
    rw [insertIn]
    split
    · next hlt =>
      have hall : ∀ other ∈ (head :: rest).map (·.1), key < other := by
        intro other ho
        rcases List.mem_cons.mp ho with rfl | ho
        · exact hlt
        · exact lt_trans hlt (h.1 other ho)
      exact List.Pairwise.cons hall (List.Pairwise.cons h.1 h.2)
    · next hle =>
      have hlt : head.1 < key :=
        lt_of_le_of_ne (not_lt.mp hle) (hne head List.mem_cons_self)
      refine List.Pairwise.cons (fun other ho => ?_)
        (ih h.2 fun pair hp => hne pair (List.mem_cons_of_mem _ hp))
      rcases List.mem_cons.mp (((insertIn_perm key value rest).map (·.1)).mem_iff.mp ho) with
        rfl | ho
      · exact hlt
      · exact h.1 other ho

theorem IsAscending.put (h : map.IsAscending) (key : String) (value : α) :
    (map.put key value).IsAscending := by
  refine isAscending_insertIn value (h.erase key) fun pair hp => ?_
  simpa using (List.mem_filter.mp hp).2

end Keyed

namespace Routing

/-- The bytes of a text. -/
def bytesOf (text : String) : Bytes := Utf8.encode text.toList

/-- The jobs that wait are listed in the order of the bytes of their ids. -/
theorem Roster.ascending_waiting {roster : Roster} (h : roster.IsAscending) :
    (roster.waiting.map fun pair => bytesOf pair.1).Pairwise (· < ·) := by
  have hids : (roster.waiting.map (·.1)).Sublist roster.keys := by
    rw [Roster.waiting_eq, Keyed.keys]
    induction roster.entries with
    | nil => exact List.Sublist.slnil
    | cons entry rest ih =>
      obtain ⟨id, holding⟩ := entry
      cases holding with
      | held job => exact ih.cons_cons id
      | out => exact ih.cons id
  have hbytes := (List.Pairwise.sublist hids h).map bytesOf fun _ _ hlt =>
    Utf8.encode_lt_encode (String.lt_iff_toList_lt.mp hlt)
  rwa [List.map_map] at hbytes

namespace Machine

variable {machine : Machine}

/-- Roster, stack, book and log agree, and the ids are listed in ascending order. -/
structure Orderly (machine : Machine) : Prop where
  /-- Everything is in agreement. -/
  sound : machine.Sound
  /-- The ids are in order. -/
  ascending : machine.router.roster.IsAscending

/-- Beginning a command keeps the ids in order. -/
theorem ascending_give (h : machine.router.roster.IsAscending) (command : Command) :
    (machine.give command).router.roster.IsAscending := by
  cases command with
  | enter id job =>
    rw [give]
    split
    · exact h
    · exact h.put id (.held job)
  | route response =>
    rw [give]
    split
    · rw [resolve, Router.showFailure_eq]
      exact h.put response.requestId .out
    · exact h
  | endAll policy => exact h.filter _
  | contains id => exact h
  | size => exact h
  | describe job => exact h
  | summary => exact h
  | deleteFile path => exact h

/-- So does each step. -/
theorem ascending_step (h : machine.router.roster.IsAscending) :
    machine.step.router.roster.IsAscending := by
  rw [step]
  split
  · exact h
  · exact h
  · next command others rest hs =>
    have hnext :
        Keyed.IsAscending { machine with stack := .queue others :: rest }.router.roster := h
    exact ascending_give hnext command
  · exact h
  · next command others rest hs =>
    let waits : List Frame := .report (machine.router.replyTo command) :: .program others :: rest
    have hnext : Keyed.IsAscending { machine with stack := waits }.router.roster := h
    exact ascending_give hnext command
  · exact h
  · next entry outcome rest hs =>
    rw [Router.finish_eq]
    exact h.erase entry.id
  · exact h
  · next policy entry others rest hs =>
    cases policy <;> exact h
  · rw [Router.notePanic_eq, Router.release_eq, Router.tell_eq]
    exact h

/-- At any time everything is in agreement and in order. -/
theorem Orderly.after (h : machine.Orderly) (count : Nat) : (machine.after count).Orderly := by
  induction count generalizing machine with
  | zero => exact h
  | succ count ih => exact ih ⟨h.sound.step, ascending_step h.ascending⟩

theorem orderly_idle (frontEnd : FrontEnd) (commands : List Command) :
    (idle frontEnd commands).Orderly :=
  ⟨sound_idle frontEnd commands, Keyed.isAscending_empty⟩

end Machine

end Routing

end ReplLink
