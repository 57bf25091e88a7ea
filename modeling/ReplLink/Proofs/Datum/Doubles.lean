import ReplLink.Proofs.Datum.Printed
import ReplLink.Proofs.Decimal.Rereading

/-!
# Doubles that are printed and read back

A finite double is printed as a numeral of that double which is no integer, so it is read back
to the last bit. A numeral that is too large for a double is read as an infinity, and that one
is printed as a word which is read as a symbol. So a double that was read survives printing if
and only if it is finite; a NaN is never read.
-/

namespace ReplLink.Datum

open ReplLink.Text ReplLink.Decimal

/-- A word is a double if it is a numeral, starts like one and is no integer. -/
theorem ofAtom_of_numeral {text : List Char} {x : Binary64} (hi : integer64? text = none)
    (hs : startsLikeNumber text = true)
    (hx : (Numeral.ofText? text).map Numeral.toBinary64 = some x) : ofAtom text = .float x := by
  obtain ⟨numeral, hn, rfl⟩ := Option.map_eq_some_iff.mp hx
  rw [ofAtom, hi, hn]
  dsimp only
  rw [if_pos hs]

/-- Only a numeral is a double. -/
theorem exists_numeral_of_ofAtom {text : List Char} {x : Binary64} (h : ofAtom text = .float x) :
    ∃ numeral : Numeral, numeral.toBinary64 = x := by
  unfold ofAtom at h
  split at h
  · exact absurd h (by simp)
  split at h
  · split at h
    · next numeral _ => exact ⟨numeral, Datum.float.inj h⟩
    · exact absurd h (by simp)
  · exact absurd h (by simp)

theorem isNaN_of_ofAtom {text : List Char} {x : Binary64} (h : ofAtom text = .float x) :
    x.isNaN = false := by
  obtain ⟨numeral, rfl⟩ := exists_numeral_of_ofAtom h
  exact Binary64.isNaN_ofDecimal _ _ _

/-- A finite double is read back. -/
theorem ofAtom_render_of_finite {x : Binary64} (hx : x.isFinite = true) :
    ofAtom (numberLayout.render x) = .float x := by
  have hsign : numberLayout.exponentSign = "" ∨ numberLayout.exponentSign = "+" := .inl rfl
  have hsplit := Layout.splitSign_render hsign hx
  have hspells := Layout.spells_magnitude hsign (of_decide_eq_true hx)
  refine ofAtom_of_numeral ?_ ?_ (Layout.ofText?_render hsign hx)
  · obtain ⟨c, hc, hd⟩ := hspells.broken
    rw [integer64?, integer?, signed?_eq_none _ (hsplit ▸ hc) hd]
  · obtain ⟨first, rest, htext, hfirst⟩ := hspells.starts
    have hpoint : first ≠ '.' := by
      rintro rfl
      exact absurd hfirst (by decide)
    rw [startsLikeNumber, hsplit, htext]
    simp [hpoint, hfirst]

/-- The word that an infinity is printed as. -/
def infinityName (x : Binary64) : String := if x.negative then "-inf" else "inf"

/-- What is read where a double is printed, unless it is a NaN. -/
theorem ofAtom_render {x : Binary64} (hx : x.isNaN = false) :
    ofAtom (numberLayout.render x)
      = if x.isFinite then .float x else .symbol (infinityName x) := by
  cases hf : x.isFinite with
  | true => exact ofAtom_render_of_finite hf
  | false =>
    have hinfinite : x.isInfinite = true := by
      have habove : ¬x.magnitude < Binary64.infiniteMagnitude := of_decide_eq_false hf
      have hbelow : ¬Binary64.infiniteMagnitude < x.magnitude := of_decide_eq_false hx
      exact beq_iff_eq.mpr (by omega)
    rw [Layout.render, hx, hinfinite, infinityName]
    cases x.negative with
    | true => rfl
    | false => rfl

/-- A printed datum is read as what is read in its place. -/
theorem read_display_reread (datum : Datum) (hs : datum.IsSeparate)
    (hn : datum.reread.nesting ≤ depthLimit) (rest : Bytes)
    (hr : datum.reread.isWord = true → StartsWithDelimiter rest) :
    read (Utf8.encode datum.display.toList ++ rest)
      = .datum datum.reread (Utf8.size datum.display.toList) := by
  have hroom : ([] : List (List Datum)).length + datum.reread.nesting ≤ depthLimit := by
    rw [List.length_nil, Nat.zero_add]
    exact hn
  have hinside := (written_reread datum hs).readInside [] hroom rest hr
  rw [display, String.toList_ofList, read, hinside, resume, Utf8.size]
  dsimp only
  rw [List.length_append, Nat.add_sub_cancel]

/-- A double that was read survives printing, with a delimiter behind it, if and only if it is
finite. An infinity comes back as a symbol. -/
theorem read_display_of_ofAtom (text : List Char) {x : Binary64} (h : ofAtom text = .float x)
    (rest : Bytes) (hr : StartsWithDelimiter rest) :
    read (Utf8.encode (float x).display.toList ++ rest)
      = .datum (if x.isFinite then .float x else .symbol (infinityName x))
          (Utf8.size (float x).display.toList) := by
  have hreread : (float x).reread
      = if x.isFinite then .float x else .symbol (infinityName x) :=
    ofAtom_render (isNaN_of_ofAtom h)
  have hflat : (float x).reread.nesting ≤ depthLimit := by
    rw [reread, nesting_of_isWord (isWord_ofAtom _)]
    exact Nat.zero_le _
  rw [read_display_reread (.float x) trivial hflat rest fun _ => hr, hreread]

/-- The least double above zero, its sign and all, from a numeral that is not its shortest. -/
theorem read_display_leastDouble :
    ofAtom "-4.9e-324".toList = .float ⟨0x8000000000000001⟩ ∧
      StartsWithDelimiter [Ascii.listClose] ∧
      read (Utf8.encode (float ⟨0x8000000000000001⟩).display.toList ++ [Ascii.listClose])
        = .datum (.float ⟨0x8000000000000001⟩)
            (Utf8.size (float ⟨0x8000000000000001⟩).display.toList) := by
  have hread : ofAtom "-4.9e-324".toList = .float ⟨0x8000000000000001⟩ :=
    ofAtom_of_numeral (by decide +kernel) (by decide) (by decide +kernel)
  have hend := startsWithDelimiter_listClose []
  exact ⟨hread, hend, read_display_of_ofAtom _ hread _ hend⟩

/-- A numeral beyond the greatest double does not: it is read as an infinity, and what is
printed for that is read as a symbol. -/
theorem not_read_display_largeNumeral :
    ofAtom "1e400".toList = .float ⟨0x7FF0000000000000⟩ ∧
      (float ⟨0x7FF0000000000000⟩).display = "inf" ∧
      read (Utf8.encode (float ⟨0x7FF0000000000000⟩).display.toList ++ [0x20])
        = .datum (.symbol "inf") 3 ∧
      read (Utf8.encode (float ⟨0x7FF0000000000000⟩).display.toList ++ [0x20])
        ≠ .datum (.float ⟨0x7FF0000000000000⟩) 3 := by
  have hread : ofAtom "1e400".toList = .float ⟨0x7FF0000000000000⟩ :=
    ofAtom_of_numeral (by decide +kernel) (by decide) (by decide +kernel)
  have hdisplay : (float ⟨0x7FF0000000000000⟩).display = "inf" := by decide +kernel
  have hnumber : (⟨0x7FF0000000000000⟩ : Binary64).isNaN = false := by decide
  have hreread : (float ⟨0x7FF0000000000000⟩).reread = .symbol "inf" := ofAtom_render hnumber
  have hflat : (float ⟨0x7FF0000000000000⟩).reread.nesting ≤ depthLimit := by
    rw [hreread]
    decide
  have hsize : Utf8.size (float ⟨0x7FF0000000000000⟩).display.toList = 3 := by decide +kernel
  have hsymbol : read (Utf8.encode (float ⟨0x7FF0000000000000⟩).display.toList ++ [0x20])
      = .datum (.symbol "inf") 3 := by
    rw [read_display_reread (float ⟨0x7FF0000000000000⟩) trivial hflat _ fun _ =>
      startsWithDelimiter_space [], hreread, hsize]
  refine ⟨hread, hdisplay, hsymbol, fun h => ?_⟩
  exact absurd (hsymbol.symm.trans h) (by simp)

end ReplLink.Datum
