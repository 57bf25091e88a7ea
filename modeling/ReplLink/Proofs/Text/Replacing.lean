import ReplLink.Text.Blank

/-!
# Replacing a mark

`replaceAll` looks for a mark from left to right. What stands in front of a character that the
mark does not have is replaced on its own, and so is what stands behind it. Whatever the text
is, it falls into pieces without the mark, and the replacement takes the place of each mark
between them.
-/

namespace ReplLink.Text

variable {mark new : List Char}

/-- At a mark, the replacement is written. -/
theorem replaceAll_mark_append (hne : mark ≠ []) (rest : List Char) :
    replaceAll mark new (mark ++ rest) = new ++ replaceAll mark new rest := by
  obtain ⟨c, tail, rfl⟩ := List.exists_cons_of_ne_nil hne
  have hstarts : (c :: tail).isPrefixOf (c :: (tail ++ rest)) = true :=
    List.isPrefixOf_iff_prefix.mpr (List.prefix_append (c :: tail) rest)
  rw [List.cons_append, replaceAll, if_pos ⟨hne, hstarts⟩, ← List.cons_append, List.drop_left]

/-- No mark reaches over a character that it does not have. -/
theorem isPrefixOf_append_cons_of_not_mem {c : Char} (hc : c ∉ mark) (front back : List Char) :
    mark.isPrefixOf (front ++ c :: back) = mark.isPrefixOf front := by
  rw [Bool.eq_iff_iff, List.isPrefixOf_iff_prefix, List.isPrefixOf_iff_prefix]
  refine ⟨fun h => ?_, fun h => h.trans (List.prefix_append front _)⟩
  rcases List.prefix_or_prefix_of_prefix h (List.prefix_append front (c :: back)) with h' | h'
  · exact h'
  · obtain ⟨more, rfl⟩ := h'
    cases more with
    | nil => exact (List.append_nil front).symm ▸ List.prefix_refl front
    | cons d more =>
      have htail := (List.prefix_append_right_inj front).mp h
      obtain ⟨rfl, -⟩ := List.cons_prefix_cons.mp htail
      exact absurd (List.mem_append_right front List.mem_cons_self) hc

/-- Both sides of such a character are replaced on their own. -/
theorem replaceAll_append_cons {c : Char} (hc : c ∉ mark) (front back : List Char) :
    replaceAll mark new (front ++ c :: back)
      = replaceAll mark new front ++ c :: replaceAll mark new back := by
  have hprefix := isPrefixOf_append_cons_of_not_mem hc
  fun_induction replaceAll mark new front with
  | case1 =>
    have hnot : ¬(mark ≠ [] ∧ mark.isPrefixOf (c :: back) = true) := by
      rintro ⟨hne, h⟩
      rw [← List.nil_append (c :: back), hprefix] at h
      exact hne (List.prefix_nil.mp (List.isPrefixOf_iff_prefix.mp h))
    rw [List.nil_append, List.nil_append, replaceAll, if_neg hnot]
  | case2 d front hmark ih =>
    obtain ⟨more, hmore⟩ := List.isPrefixOf_iff_prefix.mp hmark.2
    rw [← hmore, List.drop_left] at ih ⊢
    rw [List.append_assoc, replaceAll_mark_append hmark.1, ih, List.append_assoc]
  | case3 d front hmark ih =>
    rw [← hprefix, List.cons_append] at hmark
    rw [List.cons_append, replaceAll, if_neg hmark, ih, List.cons_append]

/-- The first piece of a text stands at its front. -/
theorem prefix_intercalate (between first : List Char) (rest : List (List Char)) :
    first <+: between.intercalate (first :: rest) := by
  cases rest with
  | nil => simp
  | cons next others =>
    rw [List.intercalate_cons_cons, List.append_assoc]
    exact List.prefix_append first _

/-- The first piece of a text may have one more character at its front. -/
theorem intercalate_cons (between : List Char) (c : Char) (first : List Char)
    (rest : List (List Char)) :
    between.intercalate ((c :: first) :: rest) = c :: between.intercalate (first :: rest) := by
  cases rest with
  | nil => simp
  | cons next others =>
    rw [List.intercalate_cons_cons, List.intercalate_cons_cons]
    rfl

/-- A text falls into pieces without the mark, and the mark between them is replaced. -/
theorem exists_pieces_replaceAll (hne : mark ≠ []) (text : List Char) :
    ∃ first rest, (∀ piece ∈ first :: rest, ¬mark <:+: piece) ∧
      text = mark.intercalate (first :: rest) ∧
      replaceAll mark new text = new.intercalate (first :: rest) := by
  fun_induction replaceAll mark new text with
  | case1 =>
    refine ⟨[], [], fun piece hp hmark => ?_, rfl, rfl⟩
    rw [List.mem_singleton.mp hp] at hmark
    exact hne (List.infix_nil.mp hmark)
  | case2 c tail hmark ih =>
    obtain ⟨first, rest, hfree, htext, hnew⟩ := ih
    obtain ⟨more, hmore⟩ := List.isPrefixOf_iff_prefix.mp hmark.2
    rw [← hmore, List.drop_left] at htext hnew
    refine ⟨[], first :: rest, List.forall_mem_cons.mpr ⟨?_, hfree⟩, ?_, ?_⟩
    · exact fun h => hne (List.infix_nil.mp h)
    · rw [List.intercalate_cons_cons, ← htext, List.nil_append, hmore]
    · rw [List.intercalate_cons_cons, ← hnew, List.nil_append, ← hmore, List.drop_left]
  | case3 c tail hmark ih =>
    obtain ⟨first, rest, hfree, htext, hnew⟩ := ih
    obtain ⟨hfirst, hrest⟩ := List.forall_mem_cons.mp hfree
    refine ⟨c :: first, rest, List.forall_mem_cons.mpr ⟨fun h => ?_, hrest⟩, ?_, ?_⟩
    · rcases List.infix_cons_iff.mp h with h | h
      · -- A mark at the front would have been found.
        have hpiece : c :: first <+: c :: tail := by
          rw [htext, ← intercalate_cons]
          exact prefix_intercalate _ _ _
        exact hmark ⟨hne, List.isPrefixOf_iff_prefix.mpr (h.trans hpiece)⟩
      · exact hfirst h
    · rw [intercalate_cons, ← htext]
    · rw [intercalate_cons, ← hnew]

end ReplLink.Text
