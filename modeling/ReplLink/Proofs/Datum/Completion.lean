import Mathlib.Data.List.TakeWhile
import ReplLink.Proofs.Datum.Grammar

/-!
# Verdicts that last

The reader's verdict on a buffer is final unless it is `incomplete`: no bytes
behind the buffer change it, and no shorter buffer has it. And `incomplete` says
that the right bytes still help. Whatever state the end of the buffer falls into,
there are bytes that end the comment, string or word that is under way and close
the open lists.
-/

namespace ReplLink.Datum

open ReplLink.Text

/-- A string under way can be closed. A quote behind a single backslash does not
close it, so then there is one more. -/
theorem exists_stringBody_of_none {read input : Bytes} (h : stringBody read input = none) :
    ∃ finish text, ∀ rest, stringBody read (input ++ (finish ++ rest)) = some (text, rest) := by
  fun_induction stringBody read input with
  | case1 read => exact ⟨[Ascii.quote], read.reverse, fun rest => stringBody_quote read rest⟩
  | case2 => simp at h
  | case3 read b hq hb =>
    refine ⟨[Ascii.quote, Ascii.quote], (unescape Ascii.quote ++ read).reverse, fun rest => ?_⟩
    rw [eq_of_beq hb]
    exact (stringBody_backslash read _ Ascii.quote).trans (stringBody_quote _ rest)
  | case4 read b hq hb escaped tail ih =>
    obtain ⟨finish, text, hf⟩ := ih h
    refine ⟨finish, text, fun rest => ?_⟩
    rw [eq_of_beq hb, List.cons_append, List.cons_append, stringBody_backslash]
    exact hf rest
  | case5 read b tail hq hb ih =>
    obtain ⟨finish, text, hf⟩ := ih h
    refine ⟨finish, text, fun rest => ?_⟩
    rw [List.cons_append, stringBody_plain (by simpa using hq) (by simpa using hb)]
    exact hf rest

/-- A piece under way can be ended, in front of any delimiter. -/
theorem exists_piece?_of_none {b : UInt8} {tail : Bytes} (h : piece? (b :: tail) = none) :
    ∃ finish value, ∀ rest, StartsWithDelimiter rest →
      piece? (b :: tail ++ (finish ++ rest)) = some (.value value, rest) := by
  by_cases ho : b = Ascii.listOpen
  · rw [ho, piece?_listOpen] at h
    exact absurd h (by simp)
  by_cases hc : b = Ascii.listClose
  · rw [hc, piece?_listClose] at h
    exact absurd h (by simp)
  by_cases hq : b = Ascii.quote
  · rw [hq, piece?_quote, Option.map_eq_none_iff] at h
    obtain ⟨finish, text, hf⟩ := exists_stringBody_of_none h
    refine ⟨finish, str (String.ofList (Utf8.decode text)), fun rest _ => ?_⟩
    rw [hq, List.cons_append, piece?_quote, hf rest, Option.map_some]
  · rw [piece?_word ho hc hq] at h
    have hend : tail.dropWhile (fun b => !Ascii.isDelimiter b) = [] := by
      split at h
      · assumption
      · exact absurd h (by simp)
    have hall := List.dropWhile_eq_nil_iff.mp hend
    refine ⟨[], ofAtom (Utf8.decode (b :: tail)), fun rest hr => ?_⟩
    obtain ⟨d, others, rfl, hd⟩ := hr
    rw [List.cons_append, List.nil_append, piece?_word ho hc hq,
      List.dropWhile_append_of_pos hall, List.takeWhile_append_of_pos hall,
      List.dropWhile_cons_of_neg (by simp [hd]), List.takeWhile_cons_of_neg (by simp [hd]),
      List.append_nil, if_neg (List.cons_ne_nil d others)]

/-- Also where no piece has begun, be it inside a comment, one can be read. -/
theorem exists_piece?_skipBlank_of_none {input : Bytes}
    (h : piece? (skipBlank false input) = none) :
    ∃ finish value, ∀ rest, StartsWithDelimiter rest →
      piece? (skipBlank false (input ++ (finish ++ rest))) = some (.value value, rest) := by
  cases hs : skipBlank false input with
  | nil =>
    obtain ⟨inside, hi⟩ := skipBlank_append_of_nil hs
    refine ⟨[Ascii.lineFeed, Ascii.quote, Ascii.quote], str (String.ofList (Utf8.decode [])),
      fun rest _ => ?_⟩
    have hquote : skipBlank inside ([Ascii.lineFeed, Ascii.quote, Ascii.quote] ++ rest)
        = Ascii.quote :: Ascii.quote :: rest := by cases inside <;> rfl
    rw [hi, hquote, piece?_quote, stringBody_quote, Option.map_some]
    rfl
  | cons b tail =>
    rw [hs] at h
    obtain ⟨finish, value, hf⟩ := exists_piece?_of_none h
    refine ⟨finish, value, fun rest hr => ?_⟩
    rw [skipBlank_append (by rw [hs]; exact List.cons_ne_nil b tail), hs]
    exact hf rest hr

/-- The brackets that close so many lists, and a blank. -/
def closing (depth : Nat) : Bytes := List.replicate depth Ascii.listClose ++ [0x20]

theorem startsWithDelimiter_closing (depth : Nat) : StartsWithDelimiter (closing depth) := by
  cases depth with
  | zero => exact startsWithDelimiter_space []
  | succ depth => exact startsWithDelimiter_listClose (closing depth)

/-- As many brackets as there are open lists end the outermost one. -/
theorem exists_resume_closing (opened : List (List Datum)) (value : Datum) :
    ∃ whole, resume opened value (closing opened.length) = .datum whole [0x20] := by
  induction opened generalizing value with
  | nil => exact ⟨value, rfl⟩
  | cons items others ih =>
    obtain ⟨whole, hw⟩ := ih (ofReversed (value :: items))
    have hclose : piece? (skipBlank false (closing (items :: others).length))
        = some (.listClose, closing others.length) := piece?_listClose _
    exact ⟨whole, (readInside_listClose hclose (value :: items) others).trans hw⟩

/-- What is incomplete can be completed. -/
theorem exists_readInside_of_incomplete {opened : List (List Datum)} {input : Bytes}
    (h : readInside opened input = .incomplete) :
    ∃ finish whole, readInside opened (input ++ finish) = .datum whole [0x20] := by
  fun_induction readInside opened input with
  | case1 opened input hp =>
    obtain ⟨finish, value, hf⟩ := exists_piece?_skipBlank_of_none hp
    obtain ⟨whole, hw⟩ := exists_resume_closing opened value
    have hpiece := hf _ (startsWithDelimiter_closing opened.length)
    exact ⟨finish ++ closing opened.length, whole, (readInside_value hpiece opened).trans hw⟩
  | case2 opened input rest hp hd ih =>
    obtain ⟨finish, whole, hw⟩ := ih h
    refine ⟨finish, whole, ?_⟩
    rw [readInside_listOpen (piece?_skipBlank_append hp finish), if_pos hd, hw]
  | case3 => simp at h
  | case4 => simp at h
  | case5 => simp at h
  | case6 input rest hp items outer others ih =>
    obtain ⟨finish, whole, hw⟩ := ih h
    refine ⟨finish, whole, ?_⟩
    rw [readInside_listClose (piece?_skipBlank_append hp finish), resume, hw]
  | case7 => simp at h
  | case8 input value rest hp items others ih =>
    obtain ⟨finish, whole, hw⟩ := ih h
    refine ⟨finish, whole, ?_⟩
    rw [readInside_value (piece?_skipBlank_append hp finish), resume, hw]

/-- A datum that was read is read again when bytes are added. -/
theorem read_append_of_datum {input : Bytes} {value : Datum} {consumed : Nat}
    (h : read input = .datum value consumed) (more : Bytes) :
    read (input ++ more) = .datum value consumed := by
  unfold read at h ⊢
  split at h
  · next found rest hi =>
    rw [readInside_append (by simp [hi]), hi, Verdict.followedBy]
    simpa [Nat.add_sub_add_right] using h
  all_goals simp at h

/-- A fault stays a fault, and the same one. -/
theorem read_append_of_invalid {input : Bytes} {fault : ReadFault} {consumed : Nat}
    (h : read input = .invalid fault consumed) (more : Bytes) :
    ∃ skipped, read (input ++ more) = .invalid fault skipped := by
  unfold read at h ⊢
  split at h
  · simp at h
  · simp at h
  · next hi =>
    obtain ⟨rfl, -⟩ := Reading.invalid.inj h
    rw [readInside_append (by simp [hi]), hi, Verdict.followedBy]
    exact ⟨_, rfl⟩
  · next rest hi =>
    obtain ⟨rfl, -⟩ := Reading.invalid.inj h
    rw [readInside_append (by simp [hi]), hi, Verdict.followedBy]
    refine ⟨(input ++ more).length - (skipCloses (rest ++ more)).length, ?_⟩
    simp only [List.length_append, Nat.add_sub_add_right]

/-- No buffer that ends inside a datum holds that datum or any other. -/
theorem read_take_of_datum {input : Bytes} {value : Datum} {consumed : Nat}
    (h : read input = .datum value consumed) {count : Nat} (hc : count < consumed) :
    read (input.take count) = .incomplete := by
  have hwhole := List.take_append_drop count input
  match ht : read (input.take count) with
  | .incomplete => rfl
  | .datum other length =>
    have hsame := read_append_of_datum ht (input.drop count)
    rw [hwhole, h] at hsame
    have hle := (consumed_of_read_datum ht).2
    rw [← (Reading.datum.inj hsame).2, List.length_take] at hle
    omega
  | .invalid fault length =>
    obtain ⟨skipped, hfault⟩ := read_append_of_invalid ht (input.drop count)
    rw [hwhole, h] at hfault
    exact absurd hfault (by simp)

/-- Every verdict lasts, and the verdict that the input is too short is right:
a datum stays the same behind more bytes and is found in no shorter buffer, a
fault stays the same fault, and everything else can be completed. -/
theorem read_lasts (input : Bytes) :
    match read input with
    | .datum value consumed =>
      0 < consumed ∧ consumed ≤ input.length ∧
        (∀ more, read (input ++ more) = .datum value consumed) ∧
        ∀ count < consumed, read (input.take count) = .incomplete
    | .invalid fault _ => ∀ more, ∃ skipped, read (input ++ more) = .invalid fault skipped
    | .incomplete => ∃ more value consumed, read (input ++ more) = .datum value consumed := by
  split
  · next value consumed h =>
    obtain ⟨hpos, hle⟩ := consumed_of_read_datum h
    exact ⟨hpos, hle, read_append_of_datum h, fun count hc => read_take_of_datum h hc⟩
  · next fault consumed h => exact read_append_of_invalid h
  · next h =>
    have hinside : readInside [] input = .incomplete := by
      unfold read at h
      split at h <;> simp_all
    obtain ⟨finish, whole, hw⟩ := exists_readInside_of_incomplete hinside
    refine ⟨finish, whole, (input ++ finish).length - 1, ?_⟩
    rw [read, hw]
    rfl

end ReplLink.Datum
