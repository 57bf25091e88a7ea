import ReplLink.Proofs.Routing.Roster
import ReplLink.Routing.RequestId
import ReplLink.Text.Ascii

/-!
# A fresh id is free

An id can be read back as its number, so different numbers have different ids.
A roster with so many ids cannot have all of one more candidate.
-/

namespace ReplLink.Routing.RequestId

open ReplLink.Text

/-- The number that hexadecimal digits stand for, behind digits that stand for
`read`. -/
def numberIn (read : Nat) (digits : List Char) : Nat :=
  digits.foldl (fun read digit => 16 * read + (Ascii.hexValue? digit).getD 0) read

theorem numberIn_append (read : Nat) (first second : List Char) :
    numberIn read (first ++ second) = numberIn (numberIn read first) second :=
  List.foldl_append

theorem numberIn_replicate_zero (count : Nat) : numberIn 0 (List.replicate count '0') = 0 := by
  induction count with
  | zero => rfl
  | succ count ih => exact ih

theorem hexValue?_digitChar {n : Nat} (h : n < 16) :
    Ascii.hexValue? n.digitChar = some n := by
  have hall : ∀ n : Fin 16, Ascii.hexValue? (Nat.digitChar n.val) = some n.val := by decide
  exact hall ⟨n, h⟩

theorem numberIn_digitChar (read : Nat) {n : Nat} (h : n < 16) :
    numberIn read [n.digitChar] = 16 * read + n := by
  rw [numberIn, List.foldl_cons, hexValue?_digitChar h]
  rfl

/-- The digits of a number stand for it. -/
theorem numberIn_toDigits (n : Nat) : numberIn 0 (Nat.toDigits 16 n) = n := by
  induction n using Nat.strongRecOn with
  | ind n ih =>
    by_cases h : n < 16
    · rw [Nat.toDigits_of_lt_base h, numberIn_digitChar 0 h]
      omega
    · rw [Nat.toDigits_of_base_le (by omega) (by omega), numberIn_append,
        ih (n / 16) (by omega), numberIn_digitChar _ (Nat.mod_lt n (by omega))]
      omega

theorem numberIn_ofNat (n : Nat) : numberIn 0 (ofNat n).toList = n := by
  rw [ofNat, String.toList_ofList, numberIn_append, numberIn_replicate_zero, numberIn_toDigits]

/-- Different numbers have different ids. -/
theorem ofNat_injective : Function.Injective ofNat := by
  intro first second h
  rw [← numberIn_ofNat first, h, numberIn_ofNat]

/-- The ids that are tried are not all registered. -/
theorem exists_free (drawn : Nat) (roster : Roster) :
    ∃ id ∈ (List.range (roster.size + 1)).map fun step => ofNat (drawn + step),
      (!roster.contains id) = true := by
  refine Classical.byContradiction fun hall => ?_
  have hkeys : ((List.range (roster.size + 1)).map fun step => ofNat (drawn + step))
      ⊆ roster.keys := by
    intro id hid
    refine Keyed.mem_keys_iff.mpr (Option.isSome_iff_exists.mp ?_)
    have htaken : ¬ (!roster.contains id) = true := fun hfree => hall ⟨id, hid, hfree⟩
    rwa [Bool.not_eq_true', Bool.not_eq_false] at htaken
  have hnodup : ((List.range (roster.size + 1)).map fun step => ofNat (drawn + step)).Nodup := by
    refine List.pairwise_map.mpr (List.nodup_range.imp fun hne he => hne ?_)
    have := ofNat_injective he
    omega
  have hlength := hnodup.length_le_of_subset hkeys
  rw [List.length_map, List.length_range, Keyed.keys, List.length_map] at hlength
  exact absurd hlength (Nat.not_succ_le_self _)

/-- Nothing is registered under a fresh id. -/
theorem get?_fresh (drawn : Nat) (roster : Roster) :
    roster.get? (fresh drawn roster) = none := by
  obtain ⟨id, hid, hfree⟩ := exists_free drawn roster
  cases hf : ((List.range (roster.size + 1)).map fun step => ofNat (drawn + step)).find?
      fun id => !roster.contains id with
  | none => exact absurd hfree (List.find?_eq_none.mp hf id hid)
  | some found =>
    have hfound := List.find?_some hf
    rw [fresh, hf, Option.getD_some]
    rwa [Bool.not_eq_true', Keyed.contains, Option.isSome_eq_false_iff,
      Option.isNone_iff_eq_none] at hfound

end ReplLink.Routing.RequestId
