import ReplLink.Text.Blank

/-!
# Trimmed texts and cut texts

What trimming and cutting leave of a text: the end of a trimmed text is not blank, a text with
such an end is left as it is, and the pieces of a cut text are made of its other characters.
-/

namespace ReplLink.Text

variable {text : List Char} {c : Char}

/-- The last character of a trimmed text is not blank. -/
theorem isBlank_of_getLast?_trimEnd (h : (trimEnd text).getLast? = some c) :
    isBlank c = false := by
  rw [trimEnd, List.getLast?_reverse] at h
  simpa [h] using List.head?_dropWhile_not isBlank text.reverse

/-- A text whose last character is not blank has nothing to trim at its end. -/
theorem trimEnd_eq_self (h : ∀ c ∈ text.getLast?, isBlank c = false) : trimEnd text = text := by
  rw [trimEnd]
  cases hr : text.reverse with
  | nil => rw [List.reverse_eq_nil_iff.mp hr, List.dropWhile_nil, List.reverse_nil]
  | cons last rest =>
    have hlast : text.getLast? = some last := by
      rw [List.getLast?_eq_head?_reverse, hr, List.head?_cons]
    rw [List.dropWhile_cons_of_neg (by simp [h last hlast]), ← hr, List.reverse_reverse]

/-- A blank character at the end is trimmed with the blank ones before it. -/
theorem trimEnd_append_blank (text : List Char) (hc : isBlank c = true) :
    trimEnd (text ++ [c]) = trimEnd text := by
  rw [trimEnd, List.reverse_append, List.reverse_singleton, List.singleton_append,
    List.dropWhile_cons_of_pos hc, trimEnd]

/-- Trimming adds no character. -/
theorem mem_of_mem_trim (h : c ∈ trim text) : c ∈ text := by
  rw [trim, trimEnd, List.mem_reverse] at h
  have hstart := List.mem_reverse.mp ((List.dropWhile_sublist isBlank).mem h)
  exact (List.dropWhile_sublist isBlank).mem hstart

/-- What follows a beginning is the rest of the text. -/
theorem eq_append_of_after? {beginning rest : List Char} (h : after? beginning text = some rest) :
    text = beginning ++ rest := by
  unfold after? at h
  split at h
  · next hprefix =>
    rw [← Option.some.inj h]
    exact (List.prefix_iff_eq_append.mp (List.isPrefixOf_iff_prefix.mp hprefix)).symm
  · exact absurd h (by simp)

/-- The pieces of a cut text are made of its characters, without the one it was cut at. -/
theorem mem_and_ne_of_mem_splitOn {sep : Char} {piece : List Char} (h : piece ∈ text.splitOn sep)
    (hc : c ∈ piece) : c ∈ text ∧ c ≠ sep := by
  induction text generalizing piece with
  | nil =>
    rw [List.splitOn_nil, List.mem_singleton] at h
    exact absurd (h ▸ hc) List.not_mem_nil
  | cons first rest ih =>
    rw [List.splitOn_cons_eq_if_modifyHead] at h
    have hmore (hin : c ∈ rest ∧ c ≠ sep) : c ∈ first :: rest ∧ c ≠ sep :=
      ⟨List.mem_cons_of_mem _ hin.1, hin.2⟩
    split at h
    · rcases List.mem_cons.mp h with rfl | h
      · exact absurd hc List.not_mem_nil
      · exact hmore (ih h hc)
    · next hne =>
      -- The first character goes to the first piece of the rest.
      obtain ⟨head, others, hcut⟩ := List.exists_cons_of_ne_nil (List.splitOn_ne_nil sep rest)
      rw [hcut] at h ih
      rcases List.mem_cons.mp h with rfl | h
      · rcases List.mem_cons.mp hc with rfl | hc
        · exact ⟨List.mem_cons_self, by simpa using hne⟩
        · exact hmore (ih List.mem_cons_self hc)
      · exact hmore (ih (List.mem_cons_of_mem _ h) hc)

end ReplLink.Text
