import ReplLink.CommandLine.Output
import ReplLink.Proofs.Datum.Printed

/-!
# A reply in JSON is one line

Whatever texts a reply holds, its JSON form has no character below the space, so no line
break either. Who reads the standard output line by line gets each reply as one line.
-/

namespace ReplLink

open ReplLink.Text ReplLink.Decimal

/-- A character that can stand inside a line: it does not come before the space. -/
def IsInline (c : Char) : Prop := 0x20 ≤ c.toNat

instance : DecidablePred IsInline := fun c => inferInstanceAs (Decidable (0x20 ≤ c.toNat))

theorem isInline_of_isDigit {c : Char} (h : Ascii.isDigit c = true) : IsInline c := by
  simp only [Ascii.isDigit, Bool.and_eq_true, decide_eq_true_eq] at h
  exact Nat.le_trans (by decide) h.1

/-- Of a text that is given, this can be computed. -/
theorem isInline_of_all {text : List Char} (h : text.all (decide <| IsInline ·) = true) :
    ∀ c ∈ text, IsInline c :=
  fun c hc => of_decide_eq_true (List.all_eq_true.mp h c hc)

theorem isInline_hexDigit : ∀ n < 16, IsInline (Ascii.hexDigit n) := by decide

theorem isInline_enclosed {first last : Char} {body : List Char} (hf : IsInline first)
    (hb : ∀ c ∈ body, IsInline c) (hl : IsInline last) :
    ∀ c ∈ first :: (body ++ [last]), IsInline c :=
  List.forall_mem_cons.mpr
    ⟨hf, List.forall_mem_append.mpr ⟨hb, List.forall_mem_singleton.mpr hl⟩⟩

namespace Datum

/-- A JSON string escapes all characters that are not inline. -/
theorem isInline_jsonChar (c : Char) : ∀ d ∈ jsonChar c, IsInline d := by
  unfold jsonChar
  split
  case h_8 =>
    split
    · next hlow =>
      have hhigh : IsInline (Ascii.hexDigit (c.toNat / 16)) := isInline_hexDigit _ (by omega)
      have hunits : IsInline (Ascii.hexDigit (c.toNat % 16)) := isInline_hexDigit _ (by omega)
      simp only [List.forall_mem_cons]
      exact ⟨by decide, by decide, by decide, by decide, hhigh, hunits, by simp⟩
    · next hlow => exact List.forall_mem_singleton.mpr (Nat.le_of_not_lt hlow)
  all_goals exact isInline_of_all rfl

theorem isInline_jsonString (text : List Char) : ∀ c ∈ jsonString text, IsInline c := by
  have hbody : ∀ c ∈ text.flatMap jsonChar, IsInline c := by
    intro c hc
    obtain ⟨d, -, hd⟩ := List.mem_flatMap.mp hc
    exact isInline_jsonChar d c hd
  exact isInline_enclosed (by decide) hbody (by decide)

theorem admitsNumbers_isInline : AdmitsNumbers IsInline :=
  ⟨fun _ => isInline_of_isDigit, by decide, by decide, by decide⟩

theorem isInline_toString (value : Int) : ∀ c ∈ (toString value).toList, IsInline c := by
  rw [toList_toString]
  split
  · exact admitsNumbers_isInline.toDigits _
  · exact List.forall_mem_cons.mpr
      ⟨admitsNumbers_isInline.minus, admitsNumbers_isInline.toDigits _⟩

theorem isInline_render (x : Binary64) : ∀ c ∈ jsonLayout.render x, IsInline c :=
  Layout.render_allowed admitsNumbers_isInline
    ⟨isInline_of_all rfl, isInline_of_all rfl, isInline_of_all rfl, isInline_of_all rfl⟩ x

mutual

/-- So the JSON form of a datum is inline, whatever its texts are. -/
theorem isInline_json (datum : Datum) : ∀ c ∈ datum.json, IsInline c := by
  match datum with
  | int value => exact isInline_toString value.toInt
  | float value => exact isInline_render value
  | str text => exact isInline_jsonString text.toList
  | symbol name => exact isInline_jsonString name.toList
  | list items =>
    rw [json]
    exact isInline_enclosed (by decide) (isInline_jsonItems items) (by decide)

theorem isInline_jsonItems (items : List Datum) : ∀ c ∈ jsonItems items, IsInline c := by
  match items with
  | [] => exact fun c hc => absurd hc List.not_mem_nil
  | [item] =>
    rw [jsonItems]
    exact isInline_json item
  | item :: next :: rest =>
    rw [jsonItems]
    have hothers := List.forall_mem_cons.mpr
      ⟨(by decide : IsInline ','), isInline_jsonItems (next :: rest)⟩
    exact List.forall_mem_append.mpr ⟨isInline_json item, hothers⟩

end

end Datum

namespace CommandLine

end CommandLine

end ReplLink
