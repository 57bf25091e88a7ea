import ReplLink.Decimal.Layout
import ReplLink.Text.Ascii

/-!
# The characters of a written double

Whatever a double is, its text is made of digits, a point, an exponent mark, signs
and the words of the layout, and it is never empty. Nothing is said about the
value: that a text without blanks stays one word does not depend on it.
-/

namespace ReplLink.Decimal

open ReplLink.Text

/-- Digits of the printer are digits of the reader. -/
theorem isDigit_of_mem_toDigits {n : Nat} {c : Char} (h : c ∈ Nat.toDigits 10 n) :
    Ascii.isDigit c = true := by
  have hd := Nat.isDigit_of_mem_toDigits (by decide) (by decide) h
  simpa [Char.isDigit, Ascii.isDigit, Char.le_def] using hd

/-- Characters that numbers may be written with. -/
structure AdmitsNumbers (allowed : Char → Prop) : Prop where
  /-- Digits. -/
  digit : ∀ c, Ascii.isDigit c = true → allowed c
  /-- The point. -/
  point : allowed '.'
  /-- The mark in front of an exponent. -/
  mark : allowed 'e'
  /-- The sign of what is below zero. -/
  minus : allowed '-'

namespace AdmitsNumbers

variable {allowed : Char → Prop}

theorem zero (h : AdmitsNumbers allowed) : allowed '0' := h.digit '0' rfl

theorem toDigits (h : AdmitsNumbers allowed) (n : Nat) : ∀ c ∈ Nat.toDigits 10 n, allowed c :=
  fun c hc => h.digit c (isDigit_of_mem_toDigits hc)

theorem zeros (h : AdmitsNumbers allowed) (count : Nat) :
    ∀ c ∈ List.replicate count '0', allowed c := by
  intro c hc
  rw [List.eq_of_mem_replicate hc]
  exact h.zero

end AdmitsNumbers

namespace Layout

/-- The words and the sign that a layout brings along are of these characters. -/
structure Keeps (layout : Layout) (allowed : Char → Prop) : Prop where
  /-- What may stand in front of an exponent. -/
  exponentSign : ∀ c ∈ layout.exponentSign.toList, allowed c
  /-- The word for a NaN. -/
  notANumber : ∀ c ∈ layout.notANumber.toList, allowed c
  /-- The word for the positive infinity. -/
  infinity : ∀ c ∈ layout.infinity.toList, allowed c
  /-- The word for the negative infinity. -/
  negativeInfinity : ∀ c ∈ layout.negativeInfinity.toList, allowed c

/-- No word of the layout is empty. -/
structure HasWords (layout : Layout) : Prop where
  /-- The word for a NaN. -/
  notANumber : layout.notANumber.toList ≠ []
  /-- The word for the positive infinity. -/
  infinity : layout.infinity.toList ≠ []
  /-- The word for the negative infinity. -/
  negativeInfinity : layout.negativeInfinity.toList ≠ []

section Characters

variable {allowed : Char → Prop} (h : AdmitsNumbers allowed)
include h

theorem positional_allowed {digits : List Char} (hd : ∀ c ∈ digits, allowed c) (point : Int) :
    ∀ c ∈ positional digits point, allowed c := by
  have hpoint : ∀ c ∈ ['.', '0'], allowed c :=
    List.forall_mem_cons.mpr ⟨h.point, List.forall_mem_singleton.mpr h.zero⟩
  unfold positional
  split
  · have hfill := List.forall_mem_append.mpr ⟨h.zeros (-point).toNat, hd⟩
    exact List.forall_mem_cons.mpr ⟨h.zero, List.forall_mem_cons.mpr ⟨h.point, hfill⟩⟩
  split
  · have hfill := List.forall_mem_append.mpr ⟨hd, h.zeros (point.toNat - digits.length)⟩
    exact List.forall_mem_append.mpr ⟨hfill, hpoint⟩
  · have hfront : ∀ c ∈ digits.take point.toNat, allowed c :=
      fun c hc => hd c (List.mem_of_mem_take hc)
    have hback : ∀ c ∈ digits.drop point.toNat, allowed c :=
      fun c hc => hd c (List.mem_of_mem_drop hc)
    exact List.forall_mem_append.mpr ⟨hfront, List.forall_mem_cons.mpr ⟨h.point, hback⟩⟩

theorem scientific_allowed {sign : String} {digits : List Char}
    (hs : ∀ c ∈ sign.toList, allowed c) (hd : ∀ c ∈ digits, allowed c) (exponent : Int) :
    ∀ c ∈ scientific sign digits exponent, allowed c := by
  have hpower := h.toDigits exponent.natAbs
  have hsigned : ∀ c ∈ (if exponent < 0 then '-' :: Nat.toDigits 10 exponent.natAbs
      else sign.toList ++ Nat.toDigits 10 exponent.natAbs), allowed c := by
    split
    · exact List.forall_mem_cons.mpr ⟨h.minus, hpower⟩
    · exact List.forall_mem_append.mpr ⟨hs, hpower⟩
  unfold scientific
  refine List.forall_mem_append.mpr ⟨?_, List.forall_mem_cons.mpr ⟨h.mark, hsigned⟩⟩
  split
  · next first second rest =>
    obtain ⟨hfirst, hrest⟩ := List.forall_mem_cons.mp hd
    exact List.forall_mem_cons.mpr ⟨hfirst, List.forall_mem_cons.mpr ⟨h.point, hrest⟩⟩
  · exact hd

theorem decimal_allowed {layout : Layout} (hk : layout.Keeps allowed) (digits : Nat)
    (exponent : Int) : ∀ c ∈ layout.decimal digits exponent, allowed c := by
  have hkept : ∀ c ∈ ((Nat.toDigits 10 digits).reverse.dropWhile (· == '0')).reverse,
      allowed c := by
    intro c hc
    have hr := (List.dropWhile_suffix _).subset (List.mem_reverse.mp hc)
    exact h.toDigits digits c (List.mem_reverse.mp hr)
  unfold decimal
  dsimp only
  split
  · exact positional_allowed h hkept _
  · exact scientific_allowed h hk.exponentSign hkept _

theorem magnitude_allowed {layout : Layout} (hk : layout.Keeps allowed) (bits : Nat) :
    ∀ c ∈ layout.magnitude bits, allowed c := by
  unfold magnitude
  split
  · have hpoint : ∀ c ∈ ['.', '0'], allowed c :=
      List.forall_mem_cons.mpr ⟨h.point, List.forall_mem_singleton.mpr h.zero⟩
    exact List.forall_mem_cons.mpr ⟨h.zero, hpoint⟩
  · exact decimal_allowed h hk _ _

/-- A written double has no other characters. -/
theorem render_allowed {layout : Layout} (hk : layout.Keeps allowed) (x : Binary64) :
    ∀ c ∈ layout.render x, allowed c := by
  unfold render
  split
  · exact hk.notANumber
  split
  · split
    · exact hk.negativeInfinity
    · exact hk.infinity
  split
  · exact List.forall_mem_cons.mpr ⟨h.minus, magnitude_allowed h hk _⟩
  · exact magnitude_allowed h hk _

end Characters

theorem positional_ne_nil (digits : List Char) (point : Int) : positional digits point ≠ [] := by
  unfold positional
  repeat' split
  all_goals simp

theorem scientific_ne_nil (sign : String) (digits : List Char) (exponent : Int) :
    scientific sign digits exponent ≠ [] := by
  unfold scientific
  exact List.append_ne_nil_of_right_ne_nil _ (List.cons_ne_nil _ _)

theorem magnitude_ne_nil (layout : Layout) (bits : Nat) : layout.magnitude bits ≠ [] := by
  unfold magnitude
  split
  · exact List.cons_ne_nil _ _
  unfold decimal
  dsimp only
  split
  · exact positional_ne_nil _ _
  · exact scientific_ne_nil _ _ _

/-- A written double is never empty. -/
theorem render_ne_nil {layout : Layout} (hw : layout.HasWords) (x : Binary64) :
    layout.render x ≠ [] := by
  unfold render
  split
  · exact hw.notANumber
  split
  · split
    · exact hw.negativeInfinity
    · exact hw.infinity
  split
  · exact List.cons_ne_nil _ _
  · exact magnitude_ne_nil layout _

end Layout

end ReplLink.Decimal
