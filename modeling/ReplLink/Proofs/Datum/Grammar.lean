import ReplLink.Proofs.Datum.Growth

/-!
# The grammar of data

What is a written form of a datum is said here without the reader: a list is its
elements between brackets, with any blanks and comments around them, a string is
spelled out between quotes, and a bare word is as many bytes as there are up to a
delimiter. The reader accepts these forms and nothing else. A bare word on its own
needs a delimiter behind it, and no more than `depthLimit` lists may be open at
once.

The reader goes through the bytes with the open lists on a stack. From the grammar
to the reader the proof is an induction over the written form, inside any open
lists. In the other direction `Ends` says what the open lists still need, and the
induction is on the number of bytes left.
-/

namespace ReplLink.Datum

open ReplLink.Text

section Definitions

/-- Blanks and comments, each comment up to the end of its line. -/
inductive IsGap : Bytes → Prop
  /-- Nothing at all. -/
  | empty : IsGap []
  /-- A blank. -/
  | blank {b : UInt8} {rest : Bytes} (hb : Ascii.isBlank b = true) (hr : IsGap rest) :
    IsGap (b :: rest)
  /-- A comment. -/
  | comment {text rest : Bytes} (ht : Ascii.lineFeed ∉ text) (hr : IsGap rest) :
    IsGap (Ascii.semicolon :: text ++ Ascii.lineFeed :: rest)

/-- What a byte behind a backslash stands for. -/
inductive Escapes : UInt8 → Bytes → Prop
  /-- The letter `n` stands for a line feed. -/
  | lineFeed : Escapes 0x6E [0x0A]
  /-- The letter `t` stands for a tab. -/
  | tab : Escapes 0x74 [0x09]
  /-- The letter `r` stands for a carriage return. -/
  | carriageReturn : Escapes 0x72 [0x0D]
  /-- The end of a line stands for nothing. -/
  | continued : Escapes 0x0A []
  /-- Any other byte stands for itself. -/
  | itself {b : UInt8} (hb : b ∉ [0x6E, 0x74, 0x72, 0x0A]) : Escapes b [b]

/-- The bytes between the quotes of a string, and those of its text. -/
inductive Spells : Bytes → Bytes → Prop
  /-- The string is empty. -/
  | empty : Spells [] []
  /-- A byte stands for itself. -/
  | plain {b : UInt8} {written text : Bytes} (hq : b ≠ Ascii.quote) (hb : b ≠ Ascii.backslash)
    (hr : Spells written text) : Spells (b :: written) (b :: text)
  /-- A backslash and the byte behind it. -/
  | escaped {b : UInt8} {meaning written text : Bytes} (he : Escapes b meaning)
    (hr : Spells written text) :
    Spells (Ascii.backslash :: b :: written) (meaning ++ text)

/-- The datum is written without brackets or quotes. -/
def isWord : Datum → Bool
  | int _ => true
  | float _ => true
  | symbol _ => true
  | _ => false

/-- The first byte ends a bare word. -/
def StartsWithDelimiter (bytes : Bytes) : Prop :=
  ∃ b rest, bytes = b :: rest ∧ Ascii.isDelimiter b = true

mutual

/-- A written form of a datum. -/
inductive Written : Datum → Bytes → Prop
  /-- A string stands between quotes, and is read as UTF-8. -/
  | str {written text : Bytes} (hs : Spells written text) :
    Written (str (String.ofList (Utf8.decode text))) (Ascii.quote :: written ++ [Ascii.quote])
  /-- A bare word has no delimiters. -/
  | word {word : Bytes} (hne : word ≠ []) (hw : ∀ b ∈ word, Ascii.isDelimiter b = false) :
    Written (ofAtom (Utf8.decode word)) word
  /-- A list stands between brackets. -/
  | list {items : List Datum} {inner : Bytes} (hi : WrittenItems items inner) :
    Written (list items) (Ascii.listOpen :: inner ++ [Ascii.listClose])

/-- A written form of the elements of a list, without the brackets. -/
inductive WrittenItems : List Datum → Bytes → Prop
  /-- There are no elements, or no more of them. -/
  | nil {gap : Bytes} (hg : IsGap gap) : WrittenItems [] gap
  /-- An element and those behind it. A bare word goes on up to a delimiter, be it
  the closing bracket. -/
  | cons {item : Datum} {items : List Datum} {gap text inner : Bytes} (hg : IsGap gap)
    (hi : Written item text) (hr : WrittenItems items inner)
    (hd : item.isWord = true → StartsWithDelimiter (inner ++ [Ascii.listClose])) :
    WrittenItems (item :: items) (gap ++ text ++ inner)

end

mutual

/-- The greatest number of lists inside one another. -/
def nesting : Datum → Nat
  | list items => nestingIn items + 1
  | _ => 0

/-- The greatest number of lists inside one another in an element. -/
def nestingIn : List Datum → Nat
  | [] => 0
  | item :: rest => max (nesting item) (nestingIn rest)

end

end Definitions

section Gaps

theorem skipBlank_semicolon (rest : Bytes) :
    skipBlank false (Ascii.semicolon :: rest) = skipBlank true rest := rfl

/-- A comment ends at the first line feed. -/
theorem skipBlank_comment {text : Bytes} (ht : Ascii.lineFeed ∉ text) (rest : Bytes) :
    skipBlank true (text ++ Ascii.lineFeed :: rest) = skipBlank false rest := by
  induction text with
  | nil => rfl
  | cons b tail ih =>
    have hb : (b != Ascii.lineFeed) = true := by
      rw [bne_iff_ne]
      exact fun he => ht (he ▸ List.mem_cons_self)
    rw [List.cons_append, skipBlank, hb]
    exact ih fun hm => ht (List.mem_cons_of_mem _ hm)

/-- A gap is skipped. -/
theorem IsGap.skipBlank_append {gap : Bytes} (h : IsGap gap) (rest : Bytes) :
    skipBlank false (gap ++ rest) = skipBlank false rest := by
  induction h with
  | empty => rfl
  | @blank b tail hb hr ih =>
    have hs : ¬ (b == Ascii.semicolon) = true := by
      rw [beq_iff_eq]
      rintro rfl
      exact absurd hb (by decide)
    rw [List.cons_append, skipBlank, if_neg hs, if_pos hb, ih]
  | comment ht hr ih =>
    rw [List.cons_append, List.cons_append, skipBlank_semicolon, List.append_assoc,
      List.cons_append, skipBlank_comment ht, ih]

/-- What goes on a comment is a comment. -/
theorem IsGap.cons_comment {b : UInt8} {rest : Bytes} (hb : b ≠ Ascii.lineFeed)
    (h : IsGap (Ascii.semicolon :: rest)) : IsGap (Ascii.semicolon :: b :: rest) := by
  generalize hw : Ascii.semicolon :: rest = whole at h
  cases h with
  | empty => exact absurd hw (List.cons_ne_nil _ _)
  | blank hb' hr =>
    obtain ⟨rfl, -⟩ := List.cons.inj hw
    exact absurd hb' (by decide)
  | @comment text tail ht hr =>
    obtain ⟨-, rfl⟩ := List.cons.inj hw
    refine @IsGap.comment (b :: text) _ (fun hm => ?_) hr
    rcases List.mem_cons.mp hm with hm | hm
    · exact hb hm.symm
    · exact ht hm

/-- What is skipped in front of something is a gap, in a comment with its start. -/
theorem exists_gap {inComment : Bool} {input : Bytes} (h : skipBlank inComment input ≠ []) :
    ∃ gap, input = gap ++ skipBlank inComment input ∧
      IsGap (if inComment then Ascii.semicolon :: gap else gap) := by
  fun_induction skipBlank inComment input with
  | case1 => exact absurd rfl h
  | case2 b rest ih =>
    obtain ⟨gap, he, hg⟩ := ih h
    refine ⟨b :: gap, congrArg (b :: ·) he, ?_⟩
    by_cases hb : b = Ascii.lineFeed
    · subst hb
      exact @IsGap.comment [] _ List.not_mem_nil hg
    · rw [if_pos (by simpa using hb)] at hg
      exact hg.cons_comment hb
  | case3 b rest hs ih =>
    obtain ⟨gap, he, hg⟩ := ih h
    exact ⟨b :: gap, congrArg (b :: ·) he, eq_of_beq hs ▸ hg⟩
  | case4 b rest hs hb ih =>
    obtain ⟨gap, he, hg⟩ := ih h
    exact ⟨b :: gap, congrArg (b :: ·) he, .blank hb hg⟩
  | case5 b rest hs hb => exact ⟨[], rfl, .empty⟩

end Gaps

section Strings

/-- What a byte behind a backslash stands for is one byte at most. -/
theorem reverse_unescape (b : UInt8) : (unescape b).reverse = unescape b := by
  unfold unescape
  repeat' split
  all_goals rfl

theorem escapes_iff {b : UInt8} {meaning : Bytes} : Escapes b meaning ↔ meaning = unescape b := by
  constructor
  · intro h
    cases h with
    | itself hb =>
      simp only [List.mem_cons, List.not_mem_nil, or_false, not_or] at hb
      simp [unescape, Ascii.lineFeed, hb]
    | _ => rfl
  · rintro rfl
    unfold unescape
    split
    · next h => exact eq_of_beq h ▸ .lineFeed
    split
    · next h => exact eq_of_beq h ▸ .tab
    split
    · next h => exact eq_of_beq h ▸ .carriageReturn
    split
    · next h => exact eq_of_beq h ▸ .continued
    next hn ht hr hl =>
    refine .itself fun hm => ?_
    simp only [List.mem_cons, List.not_mem_nil, or_false] at hm
    rcases hm with rfl | rfl | rfl | rfl
    · exact hn rfl
    · exact ht rfl
    · exact hr rfl
    · exact hl rfl

/-- A string that is spelled out is read up to the quote behind it. -/
theorem Spells.stringBody {written text : Bytes} (h : Spells written text) (read rest : Bytes) :
    stringBody read (written ++ Ascii.quote :: rest) = some (read.reverse ++ text, rest) := by
  induction h generalizing read with
  | empty => exact (stringBody_quote read rest).trans (by rw [List.append_nil])
  | plain hq hb _ ih =>
    rw [List.cons_append, stringBody_plain hq hb, ih, List.reverse_cons, List.append_assoc,
      List.singleton_append]
  | escaped he _ ih =>
    rw [List.cons_append, List.cons_append, stringBody_backslash, ih, escapes_iff.mp he,
      List.reverse_append, reverse_unescape, List.append_assoc]

/-- A string that was read is spelled out in front of its closing quote. -/
theorem spells_of_stringBody {read input text rest : Bytes}
    (h : Datum.stringBody read input = some (text, rest)) :
    ∃ written body, input = written ++ Ascii.quote :: rest ∧ text = read.reverse ++ body ∧
      Spells written body := by
  fun_induction Datum.stringBody read input with
  | case1 => simp at h
  | case2 read b tail hq =>
    simp only [Option.some.injEq, Prod.mk.injEq] at h
    obtain ⟨rfl, rfl⟩ := h
    exact ⟨[], [], by rw [eq_of_beq hq, List.nil_append], (List.append_nil _).symm, .empty⟩
  | case3 => simp at h
  | case4 read b hq hb escaped tail ih =>
    obtain ⟨written, body, rfl, rfl, hs⟩ := ih h
    refine ⟨b :: escaped :: written, unescape escaped ++ body, rfl, ?_, ?_⟩
    · rw [List.reverse_append, reverse_unescape, List.append_assoc]
    · rw [eq_of_beq hb]
      exact .escaped (escapes_iff.mpr rfl) hs
  | case5 read b tail hq hb ih =>
    obtain ⟨written, body, rfl, rfl, hs⟩ := ih h
    refine ⟨b :: written, b :: body, rfl, ?_, ?_⟩
    · rw [List.reverse_cons, List.append_assoc, List.singleton_append]
    · exact .plain (by simpa using hq) (by simpa using hb) hs

end Strings

section Accepted

theorem isWord_ofAtom (text : List Char) : (ofAtom text).isWord = true := by
  unfold ofAtom
  split
  · rfl
  · split
    · split <;> rfl
    · rfl

/-- A word has no list inside. -/
theorem nesting_of_isWord {datum : Datum} (h : datum.isWord = true) : datum.nesting = 0 := by
  cases datum with
  | list items => exact absurd h (by simp [isWord])
  | _ => rfl

/-- The closing bracket and the space end a word. -/
theorem startsWithDelimiter_listClose (rest : Bytes) :
    StartsWithDelimiter (Ascii.listClose :: rest) := ⟨_, rest, rfl, rfl⟩

theorem startsWithDelimiter_space (rest : Bytes) : StartsWithDelimiter (0x20 :: rest) :=
  ⟨_, rest, rfl, rfl⟩

/-- What stands behind the closing bracket does not matter. -/
theorem StartsWithDelimiter.append_rest {inner : Bytes}
    (h : StartsWithDelimiter (inner ++ [Ascii.listClose])) (rest : Bytes) :
    StartsWithDelimiter (inner ++ Ascii.listClose :: rest) := by
  obtain ⟨b, tail, he, hb⟩ := h
  refine ⟨b, tail ++ rest, ?_, hb⟩
  rw [← List.cons_append, ← he, List.append_assoc, List.singleton_append]

/-- A word is read up to the delimiter behind it. -/
theorem piece?_of_word {word rest : Bytes} (hne : word ≠ [])
    (hw : ∀ b ∈ word, Ascii.isDelimiter b = false) (hr : StartsWithDelimiter rest) :
    piece? (skipBlank false (word ++ rest))
      = some (.value (ofAtom (Utf8.decode word)), rest) := by
  obtain ⟨d, others, rfl, hd⟩ := hr
  cases word with
  | nil => exact absurd rfl hne
  | cons b tail =>
    have hb := hw b List.mem_cons_self
    have htail : ∀ a ∈ tail, (!Ascii.isDelimiter a) = true :=
      fun a ha => by rw [hw a (List.mem_cons_of_mem _ ha)]; rfl
    simp only [Ascii.isDelimiter, Bool.or_eq_false_iff, beq_eq_false_iff_ne] at hb
    obtain ⟨⟨⟨⟨hblank, ho⟩, hc⟩, hq⟩, hs⟩ := hb
    rw [List.cons_append, skipBlank, if_neg (by simpa using hs), if_neg (by simp [hblank]),
      piece?_word ho hc hq, List.dropWhile_append_of_pos htail, List.takeWhile_append_of_pos htail,
      List.dropWhile_cons_of_neg (by simp [hd]), List.takeWhile_cons_of_neg (by simp [hd]),
      List.append_nil]
    rfl

/-- A gap in front of a datum changes nothing. -/
theorem IsGap.readInside {gap : Bytes} (h : IsGap gap) (opened : List (List Datum))
    (rest : Bytes) : readInside opened (gap ++ rest) = readInside opened rest :=
  readInside_congr (h.skipBlank_append rest) opened

mutual

/-- A written datum is read inside any open lists that leave room for its own, and
reading goes on right behind it. -/
theorem Written.readInside {datum : Datum} {text : Bytes} (h : Written datum text)
    (opened : List (List Datum)) (hd : opened.length + datum.nesting ≤ depthLimit) (rest : Bytes)
    (hr : datum.isWord = true → StartsWithDelimiter rest) :
    readInside opened (text ++ rest) = resume opened datum rest := by
  match h with
  | @Written.str written _ hs =>
    refine readInside_value ?_ opened
    have hquote : skipBlank false (Ascii.quote :: written ++ [Ascii.quote] ++ rest)
        = Ascii.quote :: (written ++ Ascii.quote :: rest) := by
      rw [List.append_assoc]
      rfl
    rw [hquote, piece?_quote, hs.stringBody [] rest]
    rfl
  | .word hne hw =>
    exact readInside_value (piece?_of_word hne hw (hr (isWord_ofAtom _))) opened
  | @Written.list items inner hi =>
    have hroom : opened.length + 1 + nestingIn items ≤ depthLimit := by
      rw [nesting] at hd
      omega
    have hopen : piece? (skipBlank false (Ascii.listOpen :: inner ++ [Ascii.listClose] ++ rest))
        = some (.listOpen, inner ++ Ascii.listClose :: rest) := by
      rw [List.append_assoc]
      exact piece?_listOpen _
    have hclose : piece? (skipBlank false (Ascii.listClose :: rest))
        = some (.listClose, rest) := piece?_listClose rest
    rw [readInside_listOpen hopen, if_pos (by omega), hi.readInside [] opened hroom rest,
      readInside_listClose hclose, ofReversed, List.append_nil, List.reverse_reverse]

/-- The written elements of a list are read behind those before them, up to the
list's closing bracket. -/
theorem WrittenItems.readInside {items : List Datum} {text : Bytes} (h : WrittenItems items text)
    (before : List Datum) (others : List (List Datum))
    (hd : others.length + 1 + nestingIn items ≤ depthLimit) (rest : Bytes) :
    readInside (before :: others) (text ++ Ascii.listClose :: rest)
      = readInside ((items.reverse ++ before) :: others) (Ascii.listClose :: rest) := by
  match h with
  | .nil hg => exact hg.readInside _ _
  | @WrittenItems.cons item items gap text inner hg hi hr hw =>
    have hroom : (before :: others).length + item.nesting ≤ depthLimit := by
      rw [nestingIn] at hd
      rw [List.length_cons]
      omega
    have hrest : others.length + 1 + nestingIn items ≤ depthLimit := by
      rw [nestingIn] at hd
      omega
    have hdelimiter : item.isWord = true →
        StartsWithDelimiter (inner ++ Ascii.listClose :: rest) :=
      fun hword => (hw hword).append_rest rest
    rw [List.append_assoc, List.append_assoc, hg.readInside, hi.readInside _ hroom _ hdelimiter,
      resume, hr.readInside (item :: before) others hrest rest, List.reverse_cons,
      List.append_assoc, List.singleton_append]

end

end Accepted

section Accepting

/-- What a piece was read from. The first byte is neither a blank nor the start of
a comment. -/
theorem source_of_piece? {input rest : Bytes} {piece : Piece}
    (hh : ∀ b ∈ input.head?, Ascii.isBlank b = false ∧ b ≠ Ascii.semicolon)
    (h : piece? input = some (piece, rest)) :
    match piece with
    | .listOpen => input = Ascii.listOpen :: rest
    | .listClose => input = Ascii.listClose :: rest
    | .value value => ∃ text, input = text ++ rest ∧ Written value text ∧
        (value.isWord = true → StartsWithDelimiter rest) := by
  cases input with
  | nil => simp [piece?] at h
  | cons b tail =>
    by_cases ho : b = Ascii.listOpen
    · subst ho
      obtain ⟨rfl, rfl⟩ := Prod.mk.inj (Option.some.inj h)
      rfl
    by_cases hc : b = Ascii.listClose
    · subst hc
      obtain ⟨rfl, rfl⟩ := Prod.mk.inj (Option.some.inj h)
      rfl
    by_cases hq : b = Ascii.quote
    · subst hq
      rw [piece?_quote, Option.map_eq_some_iff] at h
      obtain ⟨⟨text, left⟩, hs, he⟩ := h
      obtain ⟨rfl, rfl⟩ := Prod.mk.inj he
      obtain ⟨written, body, rfl, rfl, hspell⟩ := spells_of_stringBody hs
      refine ⟨Ascii.quote :: written ++ [Ascii.quote], ?_, .str hspell, fun hw => ?_⟩
      · rw [List.append_assoc]
        rfl
      · exact absurd hw (by simp [isWord])
    · rw [piece?_word ho hc hq] at h
      split at h
      · simp at h
      next hne =>
      obtain ⟨rfl, rfl⟩ := Prod.mk.inj (Option.some.inj h)
      refine ⟨b :: tail.takeWhile fun b => !Ascii.isDelimiter b, ?_,
        .word (List.cons_ne_nil _ _) fun c hm => ?_, fun _ => ?_⟩
      · rw [List.cons_append, List.takeWhile_append_dropWhile]
      · rcases List.mem_cons.mp hm with rfl | hm
        · obtain ⟨hblank, hs⟩ := hh c rfl
          simp [Ascii.isDelimiter, hblank, ho, hc, hq, hs]
        · have hall := @List.all_takeWhile _ (fun b => !Ascii.isDelimiter b) tail
          simpa using List.all_eq_true.mp hall c hm
      · obtain ⟨d, others, hd⟩ := List.exists_cons_of_ne_nil hne
        have hhead := List.head?_dropWhile_not (fun b => !Ascii.isDelimiter b) tail
        rw [hd] at hhead
        exact ⟨d, others, hd, by simpa using hhead⟩

/-- What a verdict takes behind a datum that has ended inside open lists: each list
from the innermost one on has more elements and its closing bracket. -/
def Ends : List (List Datum) → Datum → Bytes → Datum → Bytes → Prop
  | [], value, input, whole, rest => whole = value ∧ rest = input
  | items :: others, value, input, whole, rest =>
    ∃ more inner outer, input = inner ++ Ascii.listClose :: outer ∧ WrittenItems more inner ∧
      Ends others (list (items.reverse ++ value :: more)) outer whole rest

/-- What a verdict takes inside open lists: a datum if there are none, and otherwise
what they need. -/
def Reads : List (List Datum) → Bytes → Datum → Bytes → Prop
  | [], input, whole, rest =>
    ∃ gap text, input = gap ++ text ++ rest ∧ IsGap gap ∧ Written whole text ∧
      (whole.isWord = true → StartsWithDelimiter rest)
  | items :: others, input, whole, rest =>
    ∃ more inner outer, input = inner ++ Ascii.listClose :: outer ∧ WrittenItems more inner ∧
      Ends others (list (items.reverse ++ more)) outer whole rest

/-- A datum in front of what the open lists need is an element of the innermost one. -/
theorem reads_of_ends {opened : List (List Datum)} {value whole : Datum}
    {gap text input rest : Bytes} (hg : IsGap gap) (hw : Written value text)
    (hd : value.isWord = true → StartsWithDelimiter input)
    (h : Ends opened value input whole rest) : Reads opened (gap ++ text ++ input) whole rest := by
  cases opened with
  | nil =>
    obtain ⟨rfl, rfl⟩ := h
    exact ⟨gap, text, rfl, hg, hw, hd⟩
  | cons items others =>
    obtain ⟨more, inner, outer, rfl, hi, he⟩ := h
    refine ⟨value :: more, gap ++ text ++ inner, outer, (List.append_assoc _ _ _).symm,
      .cons hg hw hi fun hword => ?_, he⟩
    obtain ⟨b, tail, hb, hdelimiter⟩ := hd hword
    cases inner with
    | nil => exact startsWithDelimiter_listClose []
    | cons c inner =>
      obtain ⟨rfl, -⟩ := List.cons.inj hb
      exact ⟨c, inner ++ [Ascii.listClose], rfl, hdelimiter⟩

/-- What the reader takes is what the open lists need, with written elements and
closing brackets. -/
theorem reads_of_readInside {opened : List (List Datum)} {input rest : Bytes} {whole : Datum}
    (h : readInside opened input = .datum whole rest) : Reads opened input whole rest := by
  induction hn : input.length using Nat.strongRecOn generalizing opened input with
  | ind n ih =>
    have hends {outer : List (List Datum)} {value : Datum} {tail : Bytes}
        (hl : tail.length < n) (hr : resume outer value tail = .datum whole rest) :
        Ends outer value tail whole rest := by
      cases outer with
      | nil =>
        obtain ⟨rfl, rfl⟩ := Verdict.datum.inj hr
        exact ⟨rfl, rfl⟩
      | cons items others =>
        obtain ⟨more, inner, outer, he, hi, ho⟩ := ih _ hl hr rfl
        rw [List.reverse_cons, List.append_assoc, List.singleton_append] at ho
        exact ⟨more, inner, outer, he, hi, ho⟩
    match hp : piece? (skipBlank false input) with
    | none =>
      rw [readInside_of_none hp] at h
      exact absurd h (by simp)
    | some (piece, tail) =>
      have hne : skipBlank false input ≠ [] := by
        intro he
        rw [he] at hp
        simp [piece?] at hp
      obtain ⟨gap, hgap, hg⟩ := exists_gap hne
      have hsource := source_of_piece? (head_skipBlank false input) hp
      have hl : tail.length < n := by
        have := length_piece? hp
        have := length_skipBlank_le false input
        omega
      cases piece with
      | listOpen =>
        rw [readInside_listOpen hp] at h
        split at h
        · obtain ⟨more, inner, outer, rfl, hi, ho⟩ := ih _ hl h rfl
          have hreads := reads_of_ends hg (.list hi) (fun hw => absurd hw (by simp [isWord])) ho
          rw [hgap, hsource]
          simpa using hreads
        · exact absurd h (by simp)
      | listClose =>
        cases opened with
        | nil =>
          rw [readInside_unmatched hp] at h
          exact absurd h (by simp)
        | cons items others =>
          rw [readInside_listClose hp] at h
          refine ⟨[], gap, tail, hsource ▸ hgap, .nil hg, ?_⟩
          rw [List.append_nil]
          exact hends hl h
      | value value =>
        obtain ⟨text, htext, hw, hd⟩ := hsource
        rw [readInside_value hp] at h
        rw [hgap, htext, ← List.append_assoc]
        exact reads_of_ends hg hw hd (hends hl h)

end Accepting

section Depth

theorem nestingIn_append (items more : List Datum) :
    nestingIn (items ++ more) = max (nestingIn items) (nestingIn more) := by
  induction items with
  | nil => simp [nestingIn]
  | cons item rest ih => rw [List.cons_append, nestingIn, ih, nestingIn, Nat.max_assoc]

theorem nestingIn_reverse (items : List Datum) : nestingIn items.reverse = nestingIn items := by
  induction items with
  | nil => rfl
  | cons item rest ih =>
    rw [List.reverse_cons, nestingIn_append, ih, nestingIn, nestingIn, nestingIn, Nat.max_zero,
      Nat.max_comm]

/-- The lists that are open and their elements so far stay within the limit. -/
def Fits : List (List Datum) → Prop
  | [] => True
  | items :: others => others.length + 1 + nestingIn items ≤ depthLimit ∧ Fits others

theorem Fits.length_le {opened : List (List Datum)} (h : Fits opened) :
    opened.length ≤ depthLimit := by
  cases opened with
  | nil => exact Nat.zero_le _
  | cons items others =>
    have := h.1
    rw [List.length_cons]
    omega

theorem Fits.cons {items : List Datum} {others : List (List Datum)} {value : Datum}
    (h : Fits (items :: others)) (hv : (items :: others).length + value.nesting ≤ depthLimit) :
    Fits ((value :: items) :: others) := by
  have := h.1
  rw [List.length_cons] at hv
  refine ⟨?_, h.2⟩
  rw [nestingIn]
  omega

/-- No list is read inside too many others. -/
theorem nesting_of_readInside {opened : List (List Datum)} {input rest : Bytes} {whole : Datum}
    (hf : Fits opened) (h : readInside opened input = .datum whole rest) :
    whole.nesting ≤ depthLimit := by
  have hvalue {value : Datum} {input rest : Bytes}
      (hp : piece? (skipBlank false input) = some (.value value, rest)) : value.nesting = 0 := by
    obtain ⟨text, ht, hw, -⟩ := source_of_piece? (head_skipBlank false input) hp
    cases hw with
    | str hs => rfl
    | word hne hw => exact nesting_of_isWord (isWord_ofAtom _)
    | list hi =>
      rw [ht, List.append_assoc, List.cons_append, piece?_listOpen] at hp
      exact absurd hp (by simp)
  fun_induction readInside opened input with
  | case1 => simp at h
  | case2 opened input tail hp hd ih => exact ih ⟨by rw [nestingIn]; omega, hf⟩ h
  | case3 => simp at h
  | case4 => simp at h
  | case5 input tail hp items =>
    obtain ⟨rfl, -⟩ := Verdict.datum.inj h
    have := hf.1
    rw [List.length_nil] at this
    rw [ofReversed, nesting, nestingIn_reverse]
    omega
  | case6 input tail hp items outer others ih =>
    refine ih (hf.2.cons ?_) h
    have := hf.1
    rw [ofReversed, nesting, nestingIn_reverse]
    omega
  | case7 input value tail hp =>
    obtain ⟨rfl, -⟩ := Verdict.datum.inj h
    rw [hvalue hp]
    exact Nat.zero_le _
  | case8 input value tail hp items others ih =>
    refine ih (hf.cons ?_) h
    rw [hvalue hp]
    exact hf.length_le

mutual

/-- A written datum whose lists do not fit inside the open ones is refused before its
end, so that it makes no difference what follows. -/
theorem Written.tooDeep {datum : Datum} {text : Bytes} (h : Written datum text)
    (opened : List (List Datum)) (ho : opened.length ≤ depthLimit)
    (hd : depthLimit < opened.length + datum.nesting) (rest : Bytes) :
    Datum.readInside opened (text ++ rest) = .tooDeep := by
  match h with
  | @Written.str written bytes hs =>
    have hn : (str (String.ofList (Utf8.decode bytes))).nesting = 0 := rfl
    omega
  | @Written.word word hne hw =>
    have hn : (ofAtom (Utf8.decode word)).nesting = 0 := nesting_of_isWord (isWord_ofAtom _)
    omega
  | @Written.list items inner hi =>
    have hopen : piece? (skipBlank false (Ascii.listOpen :: inner ++ [Ascii.listClose] ++ rest))
        = some (.listOpen, inner ++ Ascii.listClose :: rest) := by
      rw [List.append_assoc]
      exact piece?_listOpen _
    rw [nesting] at hd
    rw [readInside_listOpen hopen]
    split
    · next hroom => exact hi.tooDeep [] opened hroom (by omega) rest
    · rfl

/-- So are written elements of a list if one of them is too deep. -/
theorem WrittenItems.tooDeep {items : List Datum} {text : Bytes} (h : WrittenItems items text)
    (before : List Datum) (others : List (List Datum)) (ho : others.length < depthLimit)
    (hd : depthLimit < others.length + 1 + nestingIn items) (rest : Bytes) :
    Datum.readInside (before :: others) (text ++ Ascii.listClose :: rest) = .tooDeep := by
  match h with
  | .nil hg =>
    rw [nestingIn] at hd
    omega
  | @WrittenItems.cons item items gap text inner hg hi hr hw =>
    rw [nestingIn] at hd
    rw [List.append_assoc, List.append_assoc, hg.readInside]
    by_cases hitem : depthLimit < others.length + 1 + item.nesting
    · exact hi.tooDeep (before :: others) ho hitem _
    · have hroom : (before :: others).length + item.nesting ≤ depthLimit := Nat.le_of_not_lt hitem
      rw [hi.readInside _ hroom _ fun hword => (hw hword).append_rest rest, resume]
      exact hr.tooDeep (item :: before) others ho (by omega) rest

end

end Depth

/-- The reader reads a datum from so many bytes exactly if they are blanks and
comments and then a written form of the datum with no list too deep, and, if the datum
is a bare word, the byte behind them is a delimiter. -/
theorem read_eq_datum_iff (input : Bytes) (value : Datum) (consumed : Nat) :
    read input = .datum value consumed ↔
      consumed ≤ input.length ∧
        (∃ gap text, input.take consumed = gap ++ text ∧ IsGap gap ∧ Written value text) ∧
        value.nesting ≤ depthLimit ∧
        (value.isWord = true → ∃ b, input[consumed]? = some b ∧ Ascii.isDelimiter b = true) := by
  constructor
  · intro h
    refine ⟨(consumed_of_read_datum h).2, ?_⟩
    unfold read at h
    split at h
    · next whole rest hi =>
      obtain ⟨rfl, rfl⟩ := Reading.datum.inj h
      obtain ⟨gap, text, rfl, hg, hw, hd⟩ := reads_of_readInside hi
      have hlength : (gap ++ text ++ rest).length - rest.length = (gap ++ text).length := by
        rw [List.length_append, Nat.add_sub_cancel]
      rw [hlength, List.take_left]
      have hempty : Fits [] := trivial
      refine ⟨⟨gap, text, rfl, hg, hw⟩, nesting_of_readInside hempty hi, fun hword => ?_⟩
      obtain ⟨b, others, rfl, hb⟩ := hd hword
      exact ⟨b, by simp, hb⟩
    all_goals simp at h
  · rintro ⟨hle, ⟨gap, text, ht, hg, hw⟩, hn, hd⟩
    have hdelimiter : value.isWord = true → StartsWithDelimiter (input.drop consumed) := by
      intro hword
      obtain ⟨b, hb, hdelimiter⟩ := hd hword
      obtain ⟨hlt, rfl⟩ := List.getElem?_eq_some_iff.mp hb
      exact ⟨_, _, List.drop_eq_getElem_cons hlt, hdelimiter⟩
    have hinput : input = gap ++ (text ++ input.drop consumed) := by
      rw [← List.append_assoc, ← ht, List.take_append_drop]
    have hinside : readInside [] input = .datum value (input.drop consumed) := by
      rw [hinput, hg.readInside, ← hinput]
      exact hw.readInside [] (by simpa using hn) _ hdelimiter
    rw [read, hinside]
    simp only [List.length_drop, Nat.sub_sub_self hle]

end ReplLink.Datum
