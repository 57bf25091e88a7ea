import ReplLink.Datum.Reader

/-!
# Reading an input that grows

Bytes that arrive later never change what the reader has made of the bytes
before them. A verdict other than `incomplete` stays as it is, with the new
bytes at the end of what is left over, and a datum that was not complete takes
all the bytes that were there before.
-/

namespace ReplLink.Datum

open ReplLink.Text

/-- What stands behind blanks stays there when bytes are added. -/
theorem skipBlank_append {inComment : Bool} {input : Bytes}
    (h : skipBlank inComment input ≠ []) (more : Bytes) :
    skipBlank inComment (input ++ more) = skipBlank inComment input ++ more := by
  fun_induction skipBlank inComment input with
  | case1 => exact absurd rfl h
  | case2 b rest ih => rw [List.cons_append, skipBlank, ih h]
  | case3 b rest hs ih =>
    rw [List.cons_append, skipBlank, if_pos hs, ih h]
  | case4 b rest hs hb ih =>
    rw [List.cons_append, skipBlank, if_neg hs, if_pos hb, ih h]
  | case5 b rest hs hb =>
    rw [List.cons_append, skipBlank, if_neg hs, if_neg hb]

/-- Blanks that reach the end of the input go on in the bytes behind it. -/
theorem skipBlank_append_of_nil {inComment : Bool} {input : Bytes}
    (h : skipBlank inComment input = []) :
    ∃ inside, ∀ more, skipBlank inComment (input ++ more) = skipBlank inside more := by
  fun_induction skipBlank inComment input with
  | case1 inComment => exact ⟨inComment, fun _ => rfl⟩
  | case2 b rest ih =>
    obtain ⟨inside, hi⟩ := ih h
    exact ⟨inside, fun more => by rw [List.cons_append, skipBlank, hi]⟩
  | case3 b rest hs ih =>
    obtain ⟨inside, hi⟩ := ih h
    exact ⟨inside, fun more => by rw [List.cons_append, skipBlank, if_pos hs, hi]⟩
  | case4 b rest hs hb ih =>
    obtain ⟨inside, hi⟩ := ih h
    exact ⟨inside, fun more => by rw [List.cons_append, skipBlank, if_neg hs, if_pos hb, hi]⟩
  | case5 => simp at h

/-- What is left behind blanks is an end of the input. -/
theorem skipBlank_suffix (inComment : Bool) (input : Bytes) :
    skipBlank inComment input <:+ input := by
  fun_induction skipBlank inComment input with
  | case1 => exact List.suffix_rfl
  | case2 b rest ih => exact ih.trans (List.suffix_cons b rest)
  | case3 b rest _ ih => exact ih.trans (List.suffix_cons b rest)
  | case4 b rest _ _ ih => exact ih.trans (List.suffix_cons b rest)
  | case5 => exact List.suffix_rfl

/-- Neither a blank nor a comment stands behind the blanks. -/
theorem head_skipBlank (inComment : Bool) (input : Bytes) :
    ∀ b ∈ (skipBlank inComment input).head?,
      Ascii.isBlank b = false ∧ b ≠ Ascii.semicolon := by
  fun_induction skipBlank inComment input with
  | case1 => simp
  | case2 b rest ih => exact ih
  | case3 b rest hs ih => exact ih
  | case4 b rest hs hb ih => exact ih
  | case5 b rest hs hb =>
    intro c hc
    obtain rfl := Option.some.inj hc
    exact ⟨by simpa using hb, by simpa using hs⟩

/-- The closing quote ends a string. -/
theorem stringBody_quote (read rest : Bytes) :
    stringBody read (Ascii.quote :: rest) = some (read.reverse, rest) := by
  rw [stringBody.eq_def]
  simp

/-- A backslash and the byte behind it stand for what they escape. -/
theorem stringBody_backslash (read rest : Bytes) (escaped : UInt8) :
    stringBody read (Ascii.backslash :: escaped :: rest)
      = stringBody (unescape escaped ++ read) rest := by
  rw [stringBody.eq_def]
  simp [show (Ascii.backslash == Ascii.quote) = false from rfl]

/-- Any other byte stands for itself. -/
theorem stringBody_plain {b : UInt8} (hq : b ≠ Ascii.quote) (hb : b ≠ Ascii.backslash)
    (read rest : Bytes) : stringBody read (b :: rest) = stringBody (b :: read) rest := by
  rw [stringBody.eq_def]
  simp [hq, hb]

/-- A string that is closed stays the same. -/
theorem stringBody_append {read input text rest : Bytes}
    (h : stringBody read input = some (text, rest)) (more : Bytes) :
    stringBody read (input ++ more) = some (text, rest ++ more) := by
  fun_induction stringBody read input with
  | case1 => simp at h
  | case2 read b tail hq =>
    simp only [Option.some.injEq, Prod.mk.injEq] at h
    rw [eq_of_beq hq, List.cons_append, stringBody_quote, h.1, h.2]
  | case3 => simp at h
  | case4 read b hq hb escaped tail ih =>
    rw [eq_of_beq hb, List.cons_append, List.cons_append, stringBody_backslash]
    exact ih h
  | case5 read b tail hq hb ih =>
    rw [List.cons_append, stringBody_plain (by simpa using hq) (by simpa using hb)]
    exact ih h

/-- The rest behind a string is an end of the input. -/
theorem stringBody_suffix {read input text rest : Bytes}
    (h : stringBody read input = some (text, rest)) : rest <:+ input := by
  fun_induction stringBody read input with
  | case1 => simp at h
  | case2 read b tail hq =>
    simp only [Option.some.injEq, Prod.mk.injEq] at h
    exact h.2 ▸ List.suffix_cons b tail
  | case3 => simp at h
  | case4 read b hq hb escaped tail ih =>
    exact (ih h).trans ((List.suffix_cons escaped tail).trans (List.suffix_cons b _))
  | case5 read b tail hq hb ih => exact (ih h).trans (List.suffix_cons b tail)

/-- A string that is not closed takes the whole input. -/
theorem length_stringBody_of_none {read input more text rest : Bytes}
    (hn : stringBody read input = none)
    (h : stringBody read (input ++ more) = some (text, rest)) : rest.length ≤ more.length := by
  fun_induction stringBody read input with
  | case1 read => exact Nat.le_of_lt (length_stringBody h)
  | case2 => simp at hn
  | case3 read b hq hb =>
    cases more with
    | nil => simp [stringBody, hq, hb] at h
    | cons escaped tail =>
      rw [eq_of_beq hb, List.singleton_append, stringBody_backslash] at h
      have := length_stringBody h
      simp only [List.length_cons]
      omega
  | case4 read b hq hb escaped tail ih =>
    rw [eq_of_beq hb, List.cons_append, List.cons_append, stringBody_backslash] at h
    exact ih hn h
  | case5 read b tail hq hb ih =>
    rw [List.cons_append, stringBody_plain (by simpa using hq) (by simpa using hb)] at h
    exact ih hn h

/-- Bytes up to a delimiter stay a word of their own. -/
theorem dropWhile_append_of_ne_nil {p : UInt8 → Bool} {input : Bytes}
    (h : input.dropWhile p ≠ []) (more : Bytes) :
    (input ++ more).takeWhile p = input.takeWhile p ∧
      (input ++ more).dropWhile p = input.dropWhile p ++ more := by
  constructor
  · induction input with
    | nil => simp at h
    | cons b rest ih =>
      cases hp : p b with
      | false => simp [hp]
      | true =>
        rw [List.dropWhile_cons_of_pos hp] at h
        simp [hp, ih h]
  · rw [List.dropWhile_append, if_neg (by simpa using h)]

/-- A byte that is no bracket and no quote starts a word, which ends in front
of the next delimiter. -/
theorem piece?_word {b : UInt8} (ho : b ≠ Ascii.listOpen) (hc : b ≠ Ascii.listClose)
    (hq : b ≠ Ascii.quote) (tail : Bytes) :
    piece? (b :: tail)
      = if tail.dropWhile (fun b => !Ascii.isDelimiter b) = [] then none
        else some
          (.value (ofAtom (Utf8.decode (b :: tail.takeWhile fun b => !Ascii.isDelimiter b))),
            tail.dropWhile fun b => !Ascii.isDelimiter b) := by
  simp only [piece?, beq_iff_eq, if_neg ho, if_neg hc, if_neg hq]
  cases tail.dropWhile fun b => !Ascii.isDelimiter b <;> simp

theorem piece?_listOpen (tail : Bytes) :
    piece? (Ascii.listOpen :: tail) = some (.listOpen, tail) := rfl

theorem piece?_listClose (tail : Bytes) :
    piece? (Ascii.listClose :: tail) = some (.listClose, tail) := rfl

/-- A quote starts a string. -/
theorem piece?_quote (tail : Bytes) :
    piece? (Ascii.quote :: tail)
      = (stringBody [] tail).map fun found =>
          (.value (str (String.ofList (Utf8.decode found.1))), found.2) := rfl

/-- A piece that is complete stays the same. -/
theorem piece?_append {input rest : Bytes} {piece : Piece}
    (h : piece? input = some (piece, rest)) (more : Bytes) :
    piece? (input ++ more) = some (piece, rest ++ more) := by
  cases input with
  | nil => simp [piece?] at h
  | cons b tail =>
    rw [List.cons_append]
    by_cases ho : b = Ascii.listOpen
    · subst ho
      obtain ⟨rfl, rfl⟩ := Prod.mk.inj (Option.some.inj h)
      rfl
    by_cases hc : b = Ascii.listClose
    · subst hc
      obtain ⟨rfl, rfl⟩ := Prod.mk.inj (Option.some.inj h)
      rfl
    by_cases hq : b = Ascii.quote
    · subst hq
      rw [piece?_quote, Option.map_eq_some_iff] at h
      obtain ⟨⟨text, left⟩, hs, he⟩ := h
      obtain ⟨rfl, rfl⟩ := Prod.mk.inj he
      rw [piece?_quote, stringBody_append hs, Option.map_some]
    · rw [piece?_word ho hc hq] at h ⊢
      split at h
      · simp at h
      next hne =>
      have hw := dropWhile_append_of_ne_nil hne more
      obtain ⟨rfl, rfl⟩ := Prod.mk.inj (Option.some.inj h)
      rw [hw.1, hw.2, if_neg (by simp [hne])]

/-- A piece that is not complete takes the whole input. -/
theorem length_piece?_of_none {input more rest : Bytes} {piece : Piece}
    (hn : piece? input = none) (h : piece? (input ++ more) = some (piece, rest)) :
    rest.length ≤ more.length := by
  cases input with
  | nil => exact Nat.le_of_lt (length_piece? h)
  | cons b tail =>
    rw [List.cons_append] at h
    by_cases ho : b = Ascii.listOpen
    · subst ho
      simp [piece?] at hn
    by_cases hc : b = Ascii.listClose
    · subst hc
      simp [piece?, show (Ascii.listClose == Ascii.listOpen) = false from rfl] at hn
    by_cases hq : b = Ascii.quote
    · subst hq
      rw [piece?_quote, Option.map_eq_some_iff] at h
      obtain ⟨⟨text, left⟩, hs, he⟩ := h
      obtain ⟨rfl, rfl⟩ := Prod.mk.inj he
      rw [piece?_quote, Option.map_eq_none_iff] at hn
      exact length_stringBody_of_none hn hs
    · rw [piece?_word ho hc hq] at hn h
      split at hn
      · next hd =>
        split at h
        · simp at h
        obtain ⟨rfl, rfl⟩ := Prod.mk.inj (Option.some.inj h)
        rw [List.dropWhile_append, hd]
        exact (List.dropWhile_suffix _).length_le
      · simp at hn

/-- What follows a piece is an end of the input. -/
theorem piece?_suffix {input rest : Bytes} {piece : Piece}
    (h : piece? input = some (piece, rest)) : rest <:+ input := by
  cases input with
  | nil => simp [piece?] at h
  | cons b tail =>
    by_cases ho : b = Ascii.listOpen
    · subst ho
      exact (Prod.mk.inj (Option.some.inj h)).2 ▸ List.suffix_cons _ tail
    by_cases hc : b = Ascii.listClose
    · subst hc
      exact (Prod.mk.inj (Option.some.inj h)).2 ▸ List.suffix_cons _ tail
    by_cases hq : b = Ascii.quote
    · subst hq
      rw [piece?_quote, Option.map_eq_some_iff] at h
      obtain ⟨⟨text, left⟩, hs, he⟩ := h
      obtain ⟨rfl, rfl⟩ := Prod.mk.inj he
      exact (stringBody_suffix hs).trans (List.suffix_cons _ tail)
    · rw [piece?_word ho hc hq] at h
      split at h
      · simp at h
      obtain ⟨rfl, rfl⟩ := Prod.mk.inj (Option.some.inj h)
      exact (List.dropWhile_suffix _).trans (List.suffix_cons _ tail)

/-- Reading goes on behind a datum that has ended inside the lists `opened`. -/
def resume (opened : List (List Datum)) (value : Datum) (rest : Bytes) : Verdict :=
  match opened with
  | [] => .datum value rest
  | items :: others => readInside ((value :: items) :: others) rest

theorem readInside_of_none {input : Bytes} (h : piece? (skipBlank false input) = none)
    (opened : List (List Datum)) : readInside opened input = .incomplete := by
  rw [readInside.eq_def]
  split <;> simp_all

theorem readInside_listOpen {input rest : Bytes}
    (h : piece? (skipBlank false input) = some (.listOpen, rest)) (opened : List (List Datum)) :
    readInside opened input
      = if opened.length < depthLimit then readInside ([] :: opened) rest else .tooDeep := by
  rw [readInside.eq_def]
  split <;> simp_all

theorem readInside_unmatched {input rest : Bytes}
    (h : piece? (skipBlank false input) = some (.listClose, rest)) :
    readInside [] input = .unmatchedClose rest := by
  rw [readInside.eq_def]
  split <;> simp_all

theorem readInside_listClose {input rest : Bytes}
    (h : piece? (skipBlank false input) = some (.listClose, rest)) (items : List Datum)
    (others : List (List Datum)) :
    readInside (items :: others) input = resume others (ofReversed items) rest := by
  rw [readInside.eq_def]
  cases others <;> split <;> simp_all [resume]

theorem readInside_value {input rest : Bytes} {value : Datum}
    (h : piece? (skipBlank false input) = some (.value value, rest))
    (opened : List (List Datum)) : readInside opened input = resume opened value rest := by
  rw [readInside.eq_def]
  cases opened <;> split <;> simp_all [resume]

/-- Only what stands behind the blanks matters. -/
theorem readInside_congr {input other : Bytes}
    (h : skipBlank false input = skipBlank false other) (opened : List (List Datum)) :
    readInside opened input = readInside opened other := by
  match hp : piece? (skipBlank false other) with
  | none => rw [readInside_of_none hp, readInside_of_none (h ▸ hp)]
  | some (.listOpen, rest) => rw [readInside_listOpen hp, readInside_listOpen (h ▸ hp)]
  | some (.listClose, rest) =>
    cases opened with
    | nil => rw [readInside_unmatched hp, readInside_unmatched (h ▸ hp)]
    | cons items others => rw [readInside_listClose hp, readInside_listClose (h ▸ hp)]
  | some (.value value, rest) => rw [readInside_value hp, readInside_value (h ▸ hp)]

/-- A verdict with more bytes at the end of the input. -/
def Verdict.followedBy (more : Bytes) : Verdict → Verdict
  | datum value rest => .datum value (rest ++ more)
  | incomplete => .incomplete
  | tooDeep => .tooDeep
  | unmatchedClose rest => .unmatchedClose (rest ++ more)

/-- A piece found behind blanks stays the same when bytes are added. -/
theorem piece?_skipBlank_append {input rest : Bytes} {piece : Piece}
    (h : piece? (skipBlank false input) = some (piece, rest)) (more : Bytes) :
    piece? (skipBlank false (input ++ more)) = some (piece, rest ++ more) := by
  have hne : skipBlank false input ≠ [] := by
    intro he
    rw [he] at h
    simp [piece?] at h
  rw [skipBlank_append hne, piece?_append h]

/-- Bytes that are added change nothing once there is a verdict. -/
theorem readInside_append {opened : List (List Datum)} {input : Bytes}
    (h : readInside opened input ≠ .incomplete) (more : Bytes) :
    readInside opened (input ++ more) = (readInside opened input).followedBy more := by
  fun_induction readInside opened input with
  | case1 => exact absurd rfl h
  | case2 opened input rest hp hd ih =>
    rw [readInside_listOpen (piece?_skipBlank_append hp more), if_pos hd, ih h]
  | case3 opened input rest hp hd =>
    rw [readInside_listOpen (piece?_skipBlank_append hp more), if_neg hd, Verdict.followedBy]
  | case4 input rest hp =>
    rw [readInside_unmatched (piece?_skipBlank_append hp more), Verdict.followedBy]
  | case5 input rest hp items =>
    rw [readInside_listClose (piece?_skipBlank_append hp more), resume, Verdict.followedBy]
  | case6 input rest hp items outer others ih =>
    rw [readInside_listClose (piece?_skipBlank_append hp more), resume, ih h]
  | case7 input value rest hp =>
    rw [readInside_value (piece?_skipBlank_append hp more), resume, Verdict.followedBy]
  | case8 input value rest hp items others ih =>
    rw [readInside_value (piece?_skipBlank_append hp more), resume, ih h]

/-- A piece that was not complete leaves none of the bytes that were there
before. -/
theorem length_piece?_skipBlank_of_none {input more rest : Bytes} {piece : Piece}
    (hn : piece? (skipBlank false input) = none)
    (h : piece? (skipBlank false (input ++ more)) = some (piece, rest)) :
    rest.length ≤ more.length := by
  by_cases he : skipBlank false input = []
  · obtain ⟨inside, hi⟩ := skipBlank_append_of_nil he
    rw [hi] at h
    have := length_piece? h
    have := length_skipBlank_le inside more
    omega
  · rw [skipBlank_append he] at h
    exact length_piece?_of_none hn h

theorem left_resume_le (opened : List (List Datum)) (value : Datum) (rest : Bytes) :
    (resume opened value rest).left ≤ rest.length := by
  cases opened with
  | nil => exact Nat.le_refl _
  | cons items others =>
    rcases left_readInside ((value :: items) :: others) rest with h | h
    · rw [resume, h]
      exact Nat.zero_le _
    · exact Nat.le_of_lt h

/-- A datum that was not complete leaves none of the bytes that were there
before. -/
theorem left_readInside_of_incomplete {opened : List (List Datum)} {input : Bytes}
    (hn : readInside opened input = .incomplete) (more : Bytes) :
    (readInside opened (input ++ more)).left ≤ more.length := by
  fun_induction readInside opened input with
  | case1 opened input hp =>
    cases hq : piece? (skipBlank false (input ++ more)) with
    | none =>
      rw [readInside_of_none hq]
      exact Nat.zero_le _
    | some found =>
      obtain ⟨piece, rest⟩ := found
      have hl := length_piece?_skipBlank_of_none hp hq
      cases piece with
      | listOpen =>
        rw [readInside_listOpen hq]
        split
        · rcases left_readInside ([] :: opened) rest with hi | hi
          · rw [hi]
            exact Nat.zero_le _
          · exact Nat.le_trans (Nat.le_of_lt hi) hl
        · exact Nat.zero_le _
      | listClose =>
        cases opened with
        | nil => rw [readInside_unmatched hq]; exact hl
        | cons items others =>
          rw [readInside_listClose hq]
          exact Nat.le_trans (left_resume_le _ _ _) hl
      | value value =>
        rw [readInside_value hq]
        exact Nat.le_trans (left_resume_le _ _ _) hl
  | case2 opened input rest hp hd ih =>
    rw [readInside_listOpen (piece?_skipBlank_append hp more), if_pos hd]
    exact ih hn
  | case3 => simp at hn
  | case4 => simp at hn
  | case5 => simp at hn
  | case6 input rest hp items outer others ih =>
    rw [readInside_listClose (piece?_skipBlank_append hp more), resume]
    exact ih hn
  | case7 => simp at hn
  | case8 input value rest hp items others ih =>
    rw [readInside_value (piece?_skipBlank_append hp more), resume]
    exact ih hn

/-- The bytes that a verdict leaves over; a verdict on all of the input leaves
none. -/
def Verdict.remainder : Verdict → Bytes
  | datum _ rest => rest
  | unmatchedClose rest => rest
  | incomplete => []
  | tooDeep => []

/-- What a verdict leaves over is an end of the input. -/
theorem readInside_suffix (opened : List (List Datum)) (input : Bytes) :
    (readInside opened input).remainder <:+ input := by
  have behind {input rest : Bytes} {piece : Piece}
      (h : piece? (skipBlank false input) = some (piece, rest)) : rest <:+ input :=
    (piece?_suffix h).trans (skipBlank_suffix false input)
  fun_induction readInside opened input with
  | case1 => exact List.nil_suffix
  | case2 opened input rest hp _ ih => exact ih.trans (behind hp)
  | case3 => exact List.nil_suffix
  | case4 input rest hp => exact behind hp
  | case5 input rest hp => exact behind hp
  | case6 input rest hp _ _ _ ih => exact ih.trans (behind hp)
  | case7 input value rest hp => exact behind hp
  | case8 input value rest hp _ _ ih => exact ih.trans (behind hp)

end ReplLink.Datum
