import ReplLink.Proofs.Datum.Printed
import ReplLink.Proofs.Text.Lossy

/-!
# Data that came from a stream

A symbol that was read is one word, whatever bytes it was read from, so every datum
that was read is printed as words, strings and brackets again. Where this text is
read as a datum at all, it is read to its end, and as the datum's `reread`. Only
the doubles in it may have changed, and no list has moved.
-/

namespace ReplLink.Datum

open ReplLink.Text ReplLink.Decimal

/-- Separators are characters of ASCII, and their bytes are delimiters. -/
theorem isDelimiter_of_mem_separators {c : Char} (h : c ∈ separators) :
    0 < c.toNat ∧ c.toNat < 0x80 ∧ Ascii.isDelimiter (UInt8.ofNat c.toNat) = true := by
  have hall : separators.all (fun c => decide (0 < c.toNat) && decide (c.toNat < 0x80)
      && Ascii.isDelimiter (UInt8.ofNat c.toNat)) = true := by decide
  have hc := List.all_eq_true.mp hall c h
  simp only [Bool.and_eq_true, decide_eq_true_eq] at hc
  exact ⟨hc.1.1, hc.1.2, hc.2⟩

/-- No separator is decoded from bytes without delimiters, be they UTF-8 or not. -/
theorem decode_separate {word : Bytes} (hw : ∀ b ∈ word, Ascii.isDelimiter b = false) :
    ∀ c ∈ Utf8.decode word, c ∉ separators := by
  intro c hc hsep
  obtain ⟨hpos, hascii, hdelimiter⟩ := isDelimiter_of_mem_separators hsep
  rcases (Utf8.decode_comesFrom word).1 c hc with h | h | ⟨b, hb, he⟩
  · omega
  · omega
  · rw [← he, UInt8.ofNat_toNat, hw b hb] at hdelimiter
    exact absurd hdelimiter (by simp)

/-- A word that was read is printed as one word. -/
theorem isSeparate_ofAtom {text : List Char} (hne : text ≠ [])
    (hs : ∀ c ∈ text, c ∉ separators) : (ofAtom text).IsSeparate := by
  have hsymbol : (symbol (String.ofList text)).IsSeparate := by
    refine ⟨fun he => hne ?_, ?_⟩
    · rw [← String.toList_ofList (l := text), he]
      rfl
    · rw [String.toList_ofList]
      exact hs
  unfold ofAtom
  split
  · trivial
  split
  · split
    · trivial
    · exact hsymbol
  · exact hsymbol

mutual

/-- Whatever is written, its symbols are words. -/
theorem Written.isSeparate {datum : Datum} {text : Bytes} (h : Written datum text) :
    datum.IsSeparate := by
  match h with
  | .str _ => trivial
  | .word hne hw =>
    exact isSeparate_ofAtom ((Utf8.decode_comesFrom _).2 hne) (decode_separate hw)
  | .list hi => exact hi.areSeparate

/-- So are those of written elements. -/
theorem WrittenItems.areSeparate {items : List Datum} {text : Bytes}
    (h : WrittenItems items text) : AreSeparate items := by
  match h with
  | .nil _ => trivial
  | .cons _ hi hr _ => exact ⟨hi.isSeparate, hr.areSeparate⟩

end

mutual

/-- Rereading a datum leaves its lists where they are. -/
theorem nesting_reread (datum : Datum) : datum.reread.nesting = datum.nesting := by
  match datum with
  | .int _ => rfl
  | .float _ => exact nesting_of_isWord (isWord_ofAtom _)
  | .str _ => rfl
  | .symbol _ => exact nesting_of_isWord (isWord_ofAtom _)
  | .list items => rw [reread, nesting, nesting, nestingIn_reread items]

theorem nestingIn_reread (items : List Datum) :
    nestingIn (rereadItems items) = nestingIn items := by
  match items with
  | [] => rfl
  | item :: rest =>
    rw [rereadItems, nestingIn, nestingIn, nesting_reread item, nestingIn_reread rest]

end

/-- If a printed datum is read as anything, it is read to its end. -/
theorem eq_of_readInside_print {datum value : Datum} {rest left : Bytes}
    (hs : datum.IsSeparate) (hr : datum.reread.isWord = true → StartsWithDelimiter rest)
    (h : readInside [] (Utf8.encode datum.print ++ rest) = .datum value left) :
    datum.nesting ≤ depthLimit ∧ value = datum.reread ∧ left = rest := by
  have hwritten := written_reread datum hs
  have hfits : datum.nesting ≤ depthLimit := by
    refine Nat.le_of_not_lt fun hdeep => ?_
    have hd : depthLimit < ([] : List (List Datum)).length + datum.reread.nesting := by
      rw [List.length_nil, Nat.zero_add, nesting_reread]
      exact hdeep
    rw [hwritten.tooDeep [] (Nat.zero_le _) hd rest] at h
    exact absurd h (by simp)
  have hroom : ([] : List (List Datum)).length + datum.reread.nesting ≤ depthLimit := by
    rw [List.length_nil, Nat.zero_add, nesting_reread]
    exact hfits
  rw [hwritten.readInside [] hroom rest hr, resume] at h
  obtain ⟨hvalue, hleft⟩ := Verdict.datum.inj h
  exact ⟨hfits, hvalue.symm, hleft.symm⟩

end ReplLink.Datum
