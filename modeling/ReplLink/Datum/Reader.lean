import ReplLink.Datum.Atom
import ReplLink.Text.Utf8

/-!
# Reading a datum off the stream

`Datum.read` takes one datum from the front of a byte string and says how many
bytes it took. Blanks and comments may stand before a datum and between the
elements of a list. A bare word is finished only by a delimiter behind it:
`42` at the end of the input may still become `421`, so the verdict is
`incomplete`, never a guess.

The reader keeps the open lists on a stack of its own. Nesting is limited, and
going beyond the limit is a fault of the input that no later byte can mend.
-/

namespace ReplLink.Datum

open ReplLink.Text

/-- The greatest number of lists that may be open at once. -/
def depthLimit : Nat := 512

/-- Why no datum can be read, whatever bytes follow. -/
inductive ReadFault where
  /-- A list opens inside `depthLimit` open lists. -/
  | tooDeep
  /-- A bracket at this offset closes nothing. -/
  | unmatchedClose (offset : Nat)
  deriving DecidableEq, Repr

/-- The wording of a fault. -/
def ReadFault.message : ReadFault → String
  | tooDeep => s!"lists nested deeper than {depthLimit}"
  | unmatchedClose offset => s!"unexpected ')' at byte {offset}"

/-- The reader's verdict on a byte string. -/
inductive Reading where
  /-- A datum, and the number of bytes up to its end. -/
  | datum (value : Datum) (consumed : Nat)
  /-- The input ends before the datum does. -/
  | incomplete
  /-- No datum starts here. Without its first `consumed` bytes the input can
  be read again. -/
  | invalid (fault : ReadFault) (consumed : Nat)
  deriving Repr

/-- The wording of the verdict that the input is too short. -/
def incompleteMessage : String := "input ends inside a datum"

/-- What is left behind blanks and comments. The flag says that the text
starts inside a comment. -/
def skipBlank : Bool → Bytes → Bytes
  | _, [] => []
  | true, b :: rest => skipBlank (b != Ascii.lineFeed) rest
  | false, b :: rest =>
    if b == Ascii.semicolon then skipBlank true rest
    else if Ascii.isBlank b then skipBlank false rest
    else b :: rest

theorem length_skipBlank_le (inComment : Bool) (input : Bytes) :
    (skipBlank inComment input).length ≤ input.length := by
  fun_induction skipBlank inComment input <;> simp <;> omega

/-- The byte that a backslash and another byte stand for; a line break in a
string is continued on the next line. -/
def unescape (b : UInt8) : Bytes :=
  if b == 0x6E then [0x0A]
  else if b == 0x74 then [0x09]
  else if b == 0x72 then [0x0D]
  else if b == Ascii.lineFeed then []
  else [b]

/-- The bytes of a string up to its closing quote, behind those already read
in reverse order, and what follows the quote. -/
def stringBody (read : Bytes) : Bytes → Option (Bytes × Bytes)
  | [] => none
  | b :: rest =>
    if b == Ascii.quote then some (read.reverse, rest)
    else if b == Ascii.backslash then
      match rest with
      | [] => none
      | escaped :: rest => stringBody (unescape escaped ++ read) rest
    else stringBody (b :: read) rest

theorem length_stringBody {read input text rest : Bytes}
    (h : stringBody read input = some (text, rest)) : rest.length < input.length := by
  fun_induction stringBody read input <;> grind

/-- A piece of the written form: a bracket, or a datum without brackets. -/
inductive Piece where
  /-- The opening bracket of a list. -/
  | listOpen
  /-- The closing bracket of a list. -/
  | listClose
  /-- A string, a number or a symbol. -/
  | value (datum : Datum)
  deriving Repr

/-- The first piece of a text that starts with neither a blank nor a comment,
and what follows it; nothing if the text ends before the piece does. -/
def piece? : Bytes → Option (Piece × Bytes)
  | [] => none
  | b :: rest =>
    if b == Ascii.listOpen then some (.listOpen, rest)
    else if b == Ascii.listClose then some (.listClose, rest)
    else if b == Ascii.quote then
      (stringBody [] rest).map fun (text, rest) =>
        (.value (str (String.ofList (Utf8.decode text))), rest)
    else
      let word := rest.takeWhile fun b => !Ascii.isDelimiter b
      match rest.dropWhile fun b => !Ascii.isDelimiter b with
      | [] => none
      | next => some (.value (ofAtom (Utf8.decode (b :: word))), next)

theorem length_piece? {input rest : Bytes} {piece : Piece}
    (h : piece? input = some (piece, rest)) : rest.length < input.length := by
  cases input with
  | nil => simp [piece?] at h
  | cons b tail =>
    simp only [piece?] at h
    split at h
    · simp_all
    · split at h
      · simp_all
      · split at h
        · simp only [Option.map_eq_some_iff, Prod.exists, Prod.mk.injEq] at h
          obtain ⟨text, left, body, -, rfl⟩ := h
          exact Nat.lt_succ_of_lt (length_stringBody body)
        · split at h
          · simp at h
          · simp only [Option.some.injEq, Prod.mk.injEq] at h
            obtain ⟨-, rfl⟩ := h
            exact Nat.lt_succ_of_le (List.dropWhile_suffix _).length_le

/-- What is left behind a run of closing brackets. -/
def skipCloses (input : Bytes) : Bytes := input.dropWhile (· == Ascii.listClose)

/-- The reader's verdict with the unread rest in place of a count. -/
inductive Verdict where
  /-- A datum and what follows it. -/
  | datum (value : Datum) (rest : Bytes)
  /-- The input ends before the datum does. -/
  | incomplete
  /-- A list opens beyond the limit. -/
  | tooDeep
  /-- A bracket with nothing open, in front of `rest`. -/
  | unmatchedClose (rest : Bytes)
  deriving Repr

/-- The list with these elements, the last one first. -/
def ofReversed (items : List Datum) : Datum := list items.reverse

/-- Reads on inside the lists `opened`, innermost first, each with its elements
so far in reverse order. -/
def readInside (opened : List (List Datum)) (input : Bytes) : Verdict :=
  match _h : piece? (skipBlank false input) with
  | none => .incomplete
  | some (.listOpen, rest) =>
    if opened.length < depthLimit then readInside ([] :: opened) rest else .tooDeep
  | some (.listClose, rest) =>
    match opened with
    | [] => .unmatchedClose rest
    | [items] => .datum (ofReversed items) rest
    | items :: outer :: others =>
      readInside ((ofReversed items :: outer) :: others) rest
  | some (.value datum, rest) =>
    match opened with
    | [] => .datum datum rest
    | items :: others => readInside ((datum :: items) :: others) rest
termination_by input.length
decreasing_by
  all_goals
    have := length_piece? _h
    have := length_skipBlank_le false input
    omega

/-- The number of bytes behind what a verdict is about; a verdict on all of
the input leaves none. -/
def Verdict.left : Verdict → Nat
  | datum _ rest => rest.length
  | unmatchedClose rest => rest.length
  | incomplete => 0
  | tooDeep => 0

/-- Every verdict but `incomplete` is about at least one byte. -/
theorem left_readInside (opened : List (List Datum)) (input : Bytes) :
    readInside opened input = .incomplete ∨ (readInside opened input).left < input.length := by
  fun_induction readInside opened input with
  | case1 => exact .inl rfl
  | case2 opened input rest h _ ih =>
    have := length_piece? h
    have := length_skipBlank_le false input
    exact ih.imp_right fun _ => by omega
  | case3 opened input rest h =>
    have := length_piece? h
    have := length_skipBlank_le false input
    exact .inr (by simp only [Verdict.left]; omega)
  | case4 input rest h =>
    have := length_piece? h
    have := length_skipBlank_le false input
    exact .inr (by simp only [Verdict.left]; omega)
  | case5 input rest h =>
    have := length_piece? h
    have := length_skipBlank_le false input
    exact .inr (by simp only [Verdict.left]; omega)
  | case6 input rest h _ _ _ ih =>
    have := length_piece? h
    have := length_skipBlank_le false input
    exact ih.imp_right fun _ => by omega
  | case7 input datum rest h =>
    have := length_piece? h
    have := length_skipBlank_le false input
    exact .inr (by simp only [Verdict.left]; omega)
  | case8 input datum rest h _ _ ih =>
    have := length_piece? h
    have := length_skipBlank_le false input
    exact ih.imp_right fun _ => by omega

/-- Reads one datum from the front of a byte string. Skipping an invalid front
means skipping the whole run of closing brackets, or, beyond the limit of
nesting, all there is. -/
def read (input : Bytes) : Reading :=
  match readInside [] input with
  | .datum value rest => .datum value (input.length - rest.length)
  | .incomplete => .incomplete
  | .tooDeep => .invalid .tooDeep input.length
  | .unmatchedClose rest =>
    .invalid (.unmatchedClose (input.length - rest.length - 1))
      (input.length - (skipCloses rest).length)

/-- A datum takes at least one byte and no more than there are. -/
theorem consumed_of_read_datum {input : Bytes} {value : Datum} {consumed : Nat}
    (h : read input = .datum value consumed) : 0 < consumed ∧ consumed ≤ input.length := by
  have left := left_readInside [] input
  unfold read at h
  split at h <;> simp_all [Verdict.left]
  omega

/-- So does an invalid front. -/
theorem consumed_of_read_invalid {input : Bytes} {fault : ReadFault} {consumed : Nat}
    (h : read input = .invalid fault consumed) : 0 < consumed ∧ consumed ≤ input.length := by
  have left := left_readInside [] input
  unfold read at h
  split at h
  · simp at h
  · simp at h
  · simp_all [Verdict.left]
  · next rest found =>
    have closes : (skipCloses rest).length ≤ rest.length :=
      (List.dropWhile_suffix _).length_le
    simp_all [Verdict.left]
    omega

end ReplLink.Datum
