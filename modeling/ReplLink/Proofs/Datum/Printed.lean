import ReplLink.Datum.Printer
import ReplLink.Proofs.Datum.Grammar
import ReplLink.Proofs.Decimal.Numerals
import ReplLink.Proofs.Text.RoundTrip

/-!
# Reading what was printed

What the printer writes is a written form of the datum, so the reader takes it
back, whatever bytes follow: every string, every integer, every list within the
limit of nesting, and every symbol whose name is a word of its own. A double is
printed as one word too, and it is left open here as what that word is read: the
datum that is read in place of a printed one is its `reread`. A bare word needs
a delimiter behind it; lists and strings end themselves.
-/

namespace ReplLink.Datum

open ReplLink.Text ReplLink.Decimal

/-- Characters that cannot stand in a bare word: ASCII blanks, brackets, the
quote and the start of a comment. -/
def separators : List Char := [' ', '\t', '\n', '\x0c', '\r', '(', ')', '"', ';']

/-- A name that is written bare and read back as this symbol. -/
structure IsReadable (name : String) : Prop where
  /-- There is something to be read. -/
  nonempty : name ≠ ""
  /-- No character ends the word early. -/
  separate : ∀ c ∈ name.toList, c ∉ separators
  /-- The word is no number. -/
  atom : ofAtom name.toList = .symbol name

/-- A name that is given can be checked character by character. -/
theorem isReadable_of_all {name : String} (hn : name ≠ "")
    (hs : name.toList.all (fun c => !separators.contains c) = true)
    (ha : ofAtom name.toList = .symbol name) : IsReadable name where
  nonempty := hn
  separate := fun c hc => by simpa using List.all_eq_true.mp hs c hc
  atom := ha

mutual

/-- No doubles, and readable symbols only. -/
def IsPlain : Datum → Prop
  | int _ => True
  | float _ => False
  | str _ => True
  | symbol name => IsReadable name
  | list items => ArePlain items

/-- The elements of a list without doubles. -/
def ArePlain : List Datum → Prop
  | [] => True
  | item :: rest => IsPlain item ∧ ArePlain rest

end

mutual

/-- Every symbol is printed as one word. -/
def IsSeparate : Datum → Prop
  | int _ => True
  | float _ => True
  | str _ => True
  | symbol name => name ≠ "" ∧ ∀ c ∈ name.toList, c ∉ separators
  | list items => AreSeparate items

/-- So is every symbol among the elements of a list. -/
def AreSeparate : List Datum → Prop
  | [] => True
  | item :: rest => IsSeparate item ∧ AreSeparate rest

end

mutual

/-- The datum that is read where a datum is printed. -/
def reread : Datum → Datum
  | int value => int value
  | float value => ofAtom (numberLayout.render value)
  | str text => str text
  | symbol name => ofAtom name.toList
  | list items => list (rereadItems items)

/-- The elements that are read where the elements of a list are printed. -/
def rereadItems : List Datum → List Datum
  | [] => []
  | item :: rest => reread item :: rereadItems rest

end

mutual

/-- A plain datum is read as itself. -/
theorem reread_of_isPlain (datum : Datum) (hp : datum.IsPlain) :
    datum.IsSeparate ∧ datum.reread = datum := by
  match datum with
  | .int _ => exact ⟨trivial, rfl⟩
  | .float _ => exact hp.elim
  | .str _ => exact ⟨trivial, rfl⟩
  | .symbol name =>
    have hs : IsReadable name := hp
    exact ⟨⟨hs.nonempty, hs.separate⟩, hs.atom⟩
  | .list items =>
    obtain ⟨hs, he⟩ := rereadItems_of_arePlain items hp
    exact ⟨hs, congrArg Datum.list he⟩

/-- So are plain elements. -/
theorem rereadItems_of_arePlain (items : List Datum) (hp : ArePlain items) :
    AreSeparate items ∧ rereadItems items = items := by
  match items with
  | [] => exact ⟨trivial, rfl⟩
  | item :: rest =>
    obtain ⟨hs, he⟩ := reread_of_isPlain item hp.1
    obtain ⟨hss, hee⟩ := rereadItems_of_arePlain rest hp.2
    exact ⟨⟨hs, hss⟩, by rw [rereadItems, he, hee]⟩

end

/-- Delimiters are the bytes of the separators. -/
theorem separator_of_isDelimiter {b : UInt8} (h : Ascii.isDelimiter b = true) :
    b.toNat < 0x80 ∧ Char.ofNat b.toNat ∈ separators := by
  simp only [Ascii.isDelimiter, Ascii.isBlank, Bool.or_eq_true, beq_iff_eq] at h
  rcases h with (((((((rfl | rfl) | rfl) | rfl) | rfl) | rfl) | rfl) | rfl) | rfl <;> decide

/-- No byte of a name without separators ends the word. -/
theorem isDelimiter_encode {text : List Char} (h : ∀ c ∈ text, c ∉ separators) :
    ∀ b ∈ Utf8.encode text, Ascii.isDelimiter b = false := by
  intro b hb
  obtain ⟨c, hc, hbc⟩ := List.mem_flatMap.mp hb
  by_cases hd : Ascii.isDelimiter b = true
  · obtain ⟨hlow, hsep⟩ := separator_of_isDelimiter hd
    rcases Utf8.utf8EncodeChar_cases c with ⟨hc80, he⟩ | ⟨-, hhigh⟩
    · rw [he] at hbc
      rw [List.mem_singleton.mp hbc, Utf8.toNat_ofNat_of_lt (by omega), Char.ofNat_toNat] at hsep
      exact absurd hsep (h c hc)
    · have := hhigh b hbc
      omega
  · simpa using hd

/-- A symbol or number that is a word of its own is written bare. -/
theorem written_word {text : List Char} {value : Datum} (hne : text ≠ [])
    (hs : ∀ c ∈ text, c ∉ separators) (ha : ofAtom text = value) :
    Written value (Utf8.encode text) := by
  have hword : Utf8.encode text ≠ [] := by
    intro he
    apply hne
    rw [← Utf8.decode_encode text, he]
    rfl
  have hw := Written.word hword (isDelimiter_encode hs)
  rwa [Utf8.decode_encode, ha] at hw

/-- Bytes without a meaning in a string stand for themselves. -/
theorem Spells.append_plain {bytes written text : Bytes}
    (h : ∀ b ∈ bytes, b ≠ Ascii.quote ∧ b ≠ Ascii.backslash) (hs : Spells written text) :
    Spells (bytes ++ written) (bytes ++ text) := by
  induction bytes with
  | nil => exact hs
  | cons b tail ih =>
    obtain ⟨hq, hb⟩ := h b List.mem_cons_self
    exact .plain hq hb (ih fun a ha => h a (List.mem_cons_of_mem _ ha))

/-- A printed character spells the bytes of the character. -/
theorem Spells.escapeChar (c : Char) {written text : Bytes} (hs : Spells written text) :
    Spells (Utf8.encode (escapeChar c) ++ written) (String.utf8EncodeChar c ++ text) := by
  unfold Datum.escapeChar
  split
  · exact .escaped (escapes_iff.mpr rfl) hs
  · exact .escaped (escapes_iff.mpr rfl) hs
  · exact .escaped .lineFeed hs
  · exact .escaped .tab hs
  · exact .escaped .carriageReturn hs
  · next hq hb _ _ _ =>
    rw [Utf8.encode_cons, Utf8.encode_nil, List.append_nil]
    refine hs.append_plain fun b hbc => ?_
    rcases Utf8.utf8EncodeChar_cases c with ⟨hlow, he⟩ | ⟨-, hhigh⟩
    · rw [he] at hbc
      have hn : b.toNat = c.toNat := by
        rw [List.mem_singleton.mp hbc, Utf8.toNat_ofNat_of_lt (by omega)]
      constructor
      · rintro rfl
        exact hq (Char.ofNat_toNat c ▸ hn ▸ rfl)
      · rintro rfl
        exact hb (Char.ofNat_toNat c ▸ hn ▸ rfl)
    · have h80 := hhigh b hbc
      constructor <;> rintro rfl <;> simp [Ascii.quote, Ascii.backslash] at h80

/-- A printed string spells the bytes of its text. -/
theorem spells_escaped (text : List Char) :
    Spells (Utf8.encode (text.flatMap escapeChar)) (Utf8.encode text) := by
  induction text with
  | nil => exact .empty
  | cons c tail ih =>
    rw [List.flatMap_cons, Utf8.encode_append, Utf8.encode_cons]
    exact ih.escapeChar c

theorem written_quoted (text : String) :
    Written (.str text) (Utf8.encode (quoted text.toList)) := by
  have hw := Written.str (spells_escaped text.toList)
  rw [Utf8.decode_encode, String.ofList_toList] at hw
  rw [quoted, Utf8.encode_cons, Utf8.encode_append]
  exact hw

/-- No separator is a digit or a minus sign, or anything else in a number. -/
theorem admitsNumbers_not_separators : AdmitsNumbers (· ∉ separators) where
  digit := by
    have hall : separators.all (fun c => !Ascii.isDigit c) = true := by decide
    intro c hd hs
    exact absurd hd (by simpa using List.all_eq_true.mp hall c hs)
  point := by decide
  mark := by decide
  minus := by decide

/-- An unsigned run of digits is a numeral. -/
theorem integer?_toDigits (n : Nat) : integer? (Nat.toDigits 10 n) = some (n : Int) := by
  have hdigits : ∀ c ∈ Nat.toDigits 10 n, Ascii.isDigit c = true :=
    fun c hc => isDigit_of_mem_toDigits hc
  have hsplit := splitSign_of_digit fun c hc => hdigits c (List.mem_of_mem_head? hc)
  rw [integer?, signed?_of_splitSign hsplit Nat.toDigits_ne_nil hdigits, naturalOfDigits_toDigits]
  rfl

/-- So is one behind a minus sign. -/
theorem integer?_minus_toDigits (n : Nat) :
    integer? ('-' :: Nat.toDigits 10 n) = some (-(n : Int)) := by
  have hdigits : ∀ c ∈ Nat.toDigits 10 n, Ascii.isDigit c = true :=
    fun c hc => isDigit_of_mem_toDigits hc
  have hsplit : splitSign ('-' :: Nat.toDigits 10 n) = (true, Nat.toDigits 10 n) := rfl
  rw [integer?, signed?_of_splitSign hsplit Nat.toDigits_ne_nil hdigits, naturalOfDigits_toDigits]
  rfl

/-- An integer is printed as the digits of its magnitude, behind a minus sign
if it is below zero. -/
theorem toList_toString (value : Int) :
    (toString value).toList
      = if 0 ≤ value then Nat.toDigits 10 value.toNat
        else '-' :: Nat.toDigits 10 (-value).toNat := by
  rw [Int.toString_eq_repr, Int.repr_eq_if]
  split
  · exact Nat.toList_repr
  · rw [String.toList_append, Nat.toList_repr]
    rfl

/-- A printed integer is a numeral of that integer. -/
theorem integer?_toString (value : Int) : integer? (toString value).toList = some value := by
  rw [toList_toString]
  split
  · rw [integer?_toDigits, Int.toNat_of_nonneg (by omega)]
  · rw [integer?_minus_toDigits, Int.toNat_of_nonneg (by omega), Int.neg_neg]

/-- No character of a printed integer ends the word. -/
theorem toString_separate (value : Int) : ∀ c ∈ (toString value).toList, c ∉ separators := by
  have hdigits := admitsNumbers_not_separators.toDigits
  rw [toList_toString]
  split
  · exact hdigits _
  · exact List.forall_mem_cons.mpr ⟨admitsNumbers_not_separators.minus, hdigits _⟩

/-- Nor does any of a printed double. -/
theorem render_separate (x : Binary64) : ∀ c ∈ numberLayout.render x, c ∉ separators := by
  have hall (text : String) (h : text.toList.all (fun c => !separators.contains c) = true) :
      ∀ c ∈ text.toList, c ∉ separators :=
    fun c hc => by simpa using List.all_eq_true.mp h c hc
  have hkeeps : numberLayout.Keeps (· ∉ separators) :=
    ⟨hall _ (by decide), hall _ (by decide), hall _ (by decide), hall _ (by decide)⟩
  exact Layout.render_allowed admitsNumbers_not_separators hkeeps x

theorem hasWords_numberLayout : numberLayout.HasWords :=
  ⟨by decide, by decide, by decide⟩

/-- A printed integer of sixty-four bits is read as that integer. -/
theorem ofAtom_toString (value : Int64) : ofAtom (toString value.toInt).toList = .int value := by
  have h64 : integer64? (toString value.toInt).toList = some value := by
    have hr : Int64.minValue.toInt ≤ value.toInt ∧ value.toInt ≤ Int64.maxValue.toInt :=
      ⟨value.minValue_le_toInt, value.toInt_le⟩
    rw [integer64?, integer?_toString]
    simp only [if_pos hr, Int64.ofInt_toInt]
  rw [ofAtom, h64]

theorem toString_ne_nil (value : Int) : (toString value).toList ≠ [] := by
  rw [toList_toString]
  split
  · exact Nat.toDigits_ne_nil
  · exact List.cons_ne_nil _ _

/-- A space in front of an element is a gap. -/
theorem WrittenItems.space {items : List Datum} {inner : Bytes} (h : WrittenItems items inner) :
    WrittenItems items (0x20 :: inner) := by
  cases h with
  | nil hg => exact .nil (.blank rfl hg)
  | cons hg hi hr hd => exact .cons (.blank rfl hg) hi hr hd

mutual

/-- The printed form of a datum is a written form of what is read there. -/
theorem written_reread (datum : Datum) (hs : datum.IsSeparate) :
    Written datum.reread (Utf8.encode datum.print) := by
  match datum with
  | .int value =>
    exact written_word (toString_ne_nil value.toInt) (toString_separate value.toInt)
      (ofAtom_toString value)
  | .float value =>
    exact written_word (Layout.render_ne_nil hasWords_numberLayout value) (render_separate value)
      rfl
  | .str text => exact written_quoted text
  | .symbol name =>
    have hname : name ≠ "" ∧ ∀ c ∈ name.toList, c ∉ separators := hs
    have hne : name.toList ≠ [] := fun he => hname.1 (String.toList_eq_nil_iff.mp he)
    exact written_word hne hname.2 rfl
  | .list items =>
    rw [print, Utf8.encode_cons, Utf8.encode_append]
    exact .list (writtenItems_reread items hs)

/-- So are the printed elements of a list. -/
theorem writtenItems_reread (items : List Datum) (hs : AreSeparate items) :
    WrittenItems (rereadItems items) (Utf8.encode (printItems items)) := by
  match items with
  | [] => exact .nil .empty
  | [item] =>
    have hw := WrittenItems.cons .empty (written_reread item hs.1) (.nil .empty)
      fun _ => startsWithDelimiter_listClose []
    rwa [List.nil_append, List.append_nil] at hw
  | item :: next :: tail =>
    have hrest := (writtenItems_reread (next :: tail) hs.2).space
    rw [printItems, Utf8.encode_append, Utf8.encode_cons]
    exact WrittenItems.cons .empty (written_reread item hs.1) hrest
      fun _ => startsWithDelimiter_space _

end

/-- The printed form of a plain datum is a written form of it. -/
theorem written_print (datum : Datum) (hp : datum.IsPlain) :
    Written datum (Utf8.encode datum.print) := by
  obtain ⟨hs, he⟩ := reread_of_isPlain datum hp
  have hw := written_reread datum hs
  rwa [he] at hw

/-- A printed datum is read back inside any open lists that leave room for its
own, and reading goes on right behind it. -/
theorem readInside_print (datum : Datum) (hp : datum.IsPlain) (opened : List (List Datum))
    (hd : opened.length + datum.nesting ≤ depthLimit) (rest : Bytes)
    (hr : datum.isWord = true → StartsWithDelimiter rest) :
    readInside opened (Utf8.encode datum.print ++ rest) = resume opened datum rest :=
  (written_print datum hp).readInside opened hd rest hr

/-- The text of a datum is read back as this datum, and to its last byte, whatever
follows. Only behind a bare word there has to be a delimiter. -/
theorem read_display (datum : Datum) (hp : datum.IsPlain) (hn : datum.nesting ≤ depthLimit)
    (rest : Bytes) (hr : datum.isWord = true → StartsWithDelimiter rest) :
    read (Utf8.encode datum.display.toList ++ rest)
      = .datum datum (Utf8.size datum.display.toList) := by
  have hroom : ([] : List (List Datum)).length + datum.nesting ≤ depthLimit := by
    rw [List.length_nil, Nat.zero_add]
    exact hn
  have hinside := readInside_print datum hp [] hroom rest hr
  rw [display, String.toList_ofList, read, hinside, resume, Utf8.size]
  dsimp only
  rw [List.length_append, Nat.add_sub_cancel]

/-- A datum inside so many lists that have no other element. -/
def enclosed (datum : Datum) : Nat → Datum
  | 0 => datum
  | depth + 1 => .list [enclosed datum depth]

theorem isPlain_enclosed {datum : Datum} (hp : datum.IsPlain) (depth : Nat) :
    (enclosed datum depth).IsPlain := by
  induction depth with
  | zero => exact hp
  | succ depth ih => exact ⟨ih, trivial⟩

theorem nesting_enclosed (datum : Datum) (depth : Nat) :
    (enclosed datum depth).nesting = depth + datum.nesting := by
  induction depth with
  | zero => exact (Nat.zero_add _).symm
  | succ depth ih =>
    rw [enclosed, nesting, nestingIn, nestingIn, Nat.max_zero, ih]
    omega

theorem isWord_enclosed_succ (datum : Datum) (depth : Nat) :
    (enclosed datum (depth + 1)).isWord = false := rfl

/-- The greatest and the least integer, a text of quotes, escapes, control characters
and characters outside ASCII, and symbols that are nearly something else. -/
def trickyElements : List Datum :=
  [.int Int64.minValue, .int Int64.maxValue, .str "\"\\n\n\t\r\x00\x7f é😀", .symbol "-",
    .symbol "nan", .list []]

theorem arePlain_trickyElements : ArePlain trickyElements :=
  ⟨trivial, trivial, trivial, isReadable_of_all (by decide) (by decide) (by rfl),
    isReadable_of_all (by decide) (by decide) (by rfl), trivial, trivial⟩

/-- As deep as lists may be, they are read back, with broken text right behind them. -/
theorem read_display_trickyElements :
    (enclosed (.list trickyElements) 510).IsPlain ∧
      (enclosed (.list trickyElements) 510).nesting = depthLimit ∧
      read (Utf8.encode (enclosed (.list trickyElements) 510).display.toList ++ [0xC3, 0x29])
        = .datum (enclosed (.list trickyElements) 510)
            (Utf8.size (enclosed (.list trickyElements) 510).display.toList) := by
  have hlist : (Datum.list trickyElements).IsPlain := arePlain_trickyElements
  have hp := isPlain_enclosed hlist 510
  have hn : (enclosed (.list trickyElements) 510).nesting = depthLimit :=
    (nesting_enclosed _ _).trans rfl
  have hword : (enclosed (.list trickyElements) 510).isWord = false :=
    isWord_enclosed_succ (.list trickyElements) 509
  exact ⟨hp, hn, read_display _ hp (Nat.le_of_eq hn) _ fun hw =>
    (Bool.noConfusion (hw.symm.trans hword))⟩

end ReplLink.Datum
