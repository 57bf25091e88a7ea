import Mathlib.Data.List.Forall2
import ReplLink.Proofs.Stream.Rejected

/-!
# The shapes of a response

What a datum may look like to be a response is said here without the code that
checks it: two heads, a value that may be left out, a stack that may be left out or
written as `nil`, and frames that may be symbols. Decoding accepts these shapes and
no others, and of all the ways to write a response the interpreter's own line is one.

A value comes from the stream here, not from a caller. Its symbols are then words,
whatever bytes they were decoded from, and it has room for the list around it, so it
is printed as itself unless there is a double in it.
-/

namespace ReplLink

open ReplLink.Text

namespace Datum

mutual

/-- There is no double in the datum. -/
def IsFloatFree : Datum → Prop
  | int _ => True
  | float _ => False
  | str _ => True
  | symbol _ => True
  | list items => AreFloatFree items

/-- There is no double in the elements of a list. -/
def AreFloatFree : List Datum → Prop
  | [] => True
  | item :: rest => IsFloatFree item ∧ AreFloatFree rest

end

/-- A word that is a symbol is the symbol's name. -/
theorem name_of_ofAtom {text : List Char} {name : String} (h : ofAtom text = symbol name) :
    name = String.ofList text := by
  unfold ofAtom at h
  repeat' split at h
  all_goals first
    | exact (Datum.symbol.inj h).symm
    | exact absurd h (by simp)

/-- A symbol that was read is read again where it is printed. -/
theorem isReadable_of_word {word : Bytes} {name : String} (hne : word ≠ [])
    (hw : ∀ b ∈ word, Ascii.isDelimiter b = false)
    (h : ofAtom (Utf8.decode word) = symbol name) : IsReadable name := by
  have hs : (symbol name).IsSeparate :=
    h ▸ isSeparate_ofAtom ((Utf8.decode_comesFrom _).2 hne) (decode_separate hw)
  refine ⟨hs.1, hs.2, ?_⟩
  rw [name_of_ofAtom h, String.toList_ofList, ← name_of_ofAtom h]
  exact h

mutual

/-- A datum that was read is plain if there is no double in it. -/
theorem Written.isPlain {datum : Datum} {text : Bytes} (h : Written datum text)
    (hf : datum.IsFloatFree) : datum.IsPlain := by
  match h with
  | .str _ => trivial
  | @Written.word word hne hw =>
    generalize ha : ofAtom (Utf8.decode word) = atom at hf ⊢
    have hword := isWord_ofAtom (Utf8.decode word)
    rw [ha] at hword
    cases atom with
    | int value => trivial
    | float value => exact hf.elim
    | symbol name => exact isReadable_of_word hne hw ha
    | str text => exact absurd hword (by simp [isWord])
    | list items => exact absurd hword (by simp [isWord])
  | .list hi => exact hi.arePlain hf

/-- So are elements that were read. -/
theorem WrittenItems.arePlain {items : List Datum} {text : Bytes} (h : WrittenItems items text)
    (hf : AreFloatFree items) : ArePlain items := by
  match h with
  | .nil _ => trivial
  | .cons _ hi hr _ => exact ⟨hi.isPlain hf.1, hr.arePlain hf.2⟩

end

/-- An element is nested no deeper than the elements are. -/
theorem nesting_le_of_mem {items : List Datum} {item : Datum} (h : item ∈ items) :
    item.nesting ≤ nestingIn items := by
  induction items with
  | nil => exact absurd h List.not_mem_nil
  | cons first rest ih =>
    rw [nestingIn]
    rcases List.mem_cons.mp h with rfl | h
    · exact Nat.le_max_left _ _
    · exact Nat.le_trans (ih h) (Nat.le_max_right _ _)

/-- An element of a list that was read has been written itself. -/
theorem WrittenItems.exists_written {items : List Datum} {text : Bytes}
    (h : WrittenItems items text) {item : Datum} (hi : item ∈ items) :
    ∃ own, Written item own := by
  match h with
  | .nil _ => exact absurd hi List.not_mem_nil
  | .cons _ hw hr _ =>
    rcases List.mem_cons.mp hi with rfl | hi
    · exact ⟨_, hw⟩
    · exact hr.exists_written hi

/-- An element of a list that was read has been written and leaves room for the list
around it. -/
theorem written_of_mem {items : List Datum} {input : Bytes} {consumed : Nat}
    (h : read input = .datum (list items) consumed) {item : Datum} (hi : item ∈ items) :
    (∃ own, Written item own) ∧ item.nesting < depthLimit := by
  obtain ⟨-, ⟨-, text, -, -, hw⟩, hn, -⟩ := (read_eq_datum_iff input _ consumed).mp h
  have hle : item.nesting ≤ nestingIn items := nesting_le_of_mem hi
  rw [nesting] at hn
  generalize hl : list items = whole at hw
  cases hw with
  | list hinner =>
    rw [Datum.list.inj hl] at hi
    exact ⟨hinner.exists_written hi, by omega⟩
  | str _ => exact absurd hl (by simp)
  | word _ _ =>
    have hword := isWord_ofAtom (Utf8.decode text)
    rw [← hl] at hword
    exact absurd hword (by simp [isWord])

end Datum

/-- There is no double in the value, if there is one. -/
def Outcome.IsFloatFree : Outcome → Prop
  | .success none => True
  | .success (some value) => value.IsFloatFree
  | .failure _ => True

namespace Response

/-- A stack frame is a string or a symbol. -/
inductive TellsFrame : Datum → String → Prop
  /-- A string. -/
  | str (text : String) : TellsFrame (.str text) text
  /-- A symbol. -/
  | symbol (name : String) : TellsFrame (.symbol name) name

/-- The stack is a list of frames, or the word `nil`. -/
inductive TellsStack : Datum → List String → Prop
  /-- The word stands for no frames. -/
  | nil : TellsStack (.symbol "nil") []
  /-- The frames are listed. -/
  | list {frames : List Datum} {stack : List String}
    (h : List.Forall₂ TellsFrame frames stack) : TellsStack (.list frames) stack

/-- The shapes of a response. -/
inductive Tells : Datum → Response → Prop
  /-- The code ran, and nothing is said about a value. -/
  | ran (id : String) : Tells (.list [.symbol successWord, .str id]) ⟨id, .success none⟩
  /-- The code ran, and the keyword says that there is no value. -/
  | nothing (id : String) :
    Tells (.list [.symbol successWord, .str id, .symbol nothingWord]) ⟨id, .success none⟩
  /-- The code ran to a value. -/
  | value (id : String) {value : Datum} (hv : value ≠ .symbol nothingWord) :
    Tells (.list [.symbol successWord, .str id, value]) ⟨id, .success (some value)⟩
  /-- The code failed, and nothing is said about the stack. -/
  | failed (id message : String) :
    Tells (.list [.symbol failureWord, .str id, .str message]) ⟨id, .failure ⟨message, []⟩⟩
  /-- The code failed with a stack. -/
  | traced (id message : String) {frames : Datum} {stack : List String}
    (hs : TellsStack frames stack) :
    Tells (.list [.symbol failureWord, .str id, .str message, frames])
      ⟨id, .failure ⟨message, stack⟩⟩

section Shapes

theorem tellsFrame_iff {frame : Datum} {name : String} :
    TellsFrame frame name ↔ frame.name? = some name := by
  constructor
  · rintro (⟨-⟩ | ⟨-⟩) <;> rfl
  · intro h
    cases frame with
    | str text => exact Option.some.inj h ▸ .str text
    | symbol name => exact Option.some.inj h ▸ .symbol name
    | _ => exact absurd h (by simp [Datum.name?])

/-- The names of some data are told one by one. -/
theorem forall₂_tellsFrame_iff {frames : List Datum} {stack : List String} :
    List.Forall₂ TellsFrame frames stack ↔ frames.mapM Datum.name? = some stack := by
  induction frames generalizing stack with
  | nil => simp [List.forall₂_nil_left_iff, eq_comm]
  | cons frame rest ih =>
    simp only [List.forall₂_cons_left_iff, tellsFrame_iff, ih, List.mapM_cons, Option.pure_def,
      Option.bind_eq_bind, Option.bind_eq_some_iff, Option.some.injEq]
    constructor
    · rintro ⟨name, names, hname, hnames, rfl⟩
      exact ⟨name, hname, names, hnames, rfl⟩
    · rintro ⟨name, hname, names, hnames, rfl⟩
      exact ⟨name, names, hname, hnames, rfl⟩

theorem tellsStack_iff {frames : Datum} {stack : List String} :
    TellsStack frames stack ↔ frames.names? = some stack := by
  constructor
  · rintro (⟨⟩ | ⟨h⟩)
    · rfl
    · exact forall₂_tellsFrame_iff.mp h
  · intro h
    cases frames with
    | list items => exact .list (forall₂_tellsFrame_iff.mpr h)
    | symbol name =>
      by_cases hn : name = "nil"
      · subst hn
        obtain rfl : [] = stack := Option.some.inj h
        exact .nil
      · exact absurd h (by simp [Datum.names?, Datum.elements?, hn])
    | _ => exact absurd h (by simp [Datum.names?, Datum.elements?])

/-- Each shape is accepted. -/
theorem Tells.ofDatum? {datum : Datum} {response : Response} (h : Tells datum response) :
    ofDatum? datum = .ok response := by
  have hne : failureWord ≠ successWord := by decide
  cases h with
  | ran id => rfl
  | nothing id => rfl
  | @value id value hv =>
    cases value with
    | symbol name =>
      have hn : name ≠ nothingWord := fun he => hv (he ▸ rfl)
      simp only [Response.ofDatum?, outcome?, if_true, if_neg hn]
    | _ => rfl
  | failed id message => rfl
  | traced id message hs =>
    simp only [Response.ofDatum?, outcome?, if_neg hne, if_true, tellsStack_iff.mp hs]

/-- What is accepted behind the head `response-done` is a shape. -/
theorem tells_of_success {id : String} {items : List Datum} {outcome : Outcome}
    (h : outcome? successWord items = .ok (outcome, [])) :
    Tells (.list (.symbol successWord :: .str id :: items)) ⟨id, outcome⟩ := by
  rw [outcome?.eq_def, if_pos rfl] at h
  split at h
  · obtain ⟨rfl, -⟩ := Prod.mk.inj (Except.ok.inj h)
    exact .ran id
  · next name rest =>
    obtain ⟨rfl, rfl⟩ := Prod.mk.inj (Except.ok.inj h)
    by_cases hn : name = nothingWord
    · rw [if_pos hn, hn]
      exact .nothing id
    · rw [if_neg hn]
      exact .value id fun he => hn (Datum.symbol.inj he)
  · next value rest hsymbol =>
    obtain ⟨rfl, rfl⟩ := Prod.mk.inj (Except.ok.inj h)
    exact .value id fun he => hsymbol _ he

/-- What is accepted behind the head `response-failure` is a shape. -/
theorem tells_of_failure {id : String} {items : List Datum} {outcome : Outcome}
    (h : outcome? failureWord items = .ok (outcome, [])) :
    Tells (.list (.symbol failureWord :: .str id :: items)) ⟨id, outcome⟩ := by
  have hne : failureWord ≠ successWord := by decide
  rw [outcome?.eq_def, if_neg hne, if_pos rfl] at h
  split at h
  · exact absurd h (by simp)
  · next message =>
    obtain ⟨rfl, -⟩ := Prod.mk.inj (Except.ok.inj h)
    exact .failed id message
  · next message frames rest =>
    split at h
    · next stack hs =>
      obtain ⟨rfl, rfl⟩ := Prod.mk.inj (Except.ok.inj h)
      exact .traced id message (tellsStack_iff.mpr hs)
    · exact absurd h (by simp)
  · exact absurd h (by simp)

/-- The shapes are all that is accepted, each as the response that it tells. -/
theorem ofDatum?_eq_ok_iff {datum : Datum} {response : Response} :
    ofDatum? datum = .ok response ↔ Tells datum response := by
  refine ⟨fun h => ?_, Tells.ofDatum?⟩
  unfold ofDatum? at h
  split at h
  · next head id items =>
    split at h
    · next outcome ho =>
      rw [← Except.ok.inj h]
      by_cases hs : head = successWord
      · subst hs
        exact tells_of_success ho
      by_cases hf : head = failureWord
      · subst hf
        exact tells_of_failure ho
      · rw [outcome?.eq_def, if_neg hs, if_neg hf] at ho
        exact absurd ho (by simp)
    all_goals exact absurd h (by simp)
  all_goals exact absurd h (by simp)

end Shapes

section Decoding

variable {input : Bytes} {datum : Datum} {response : Response} {consumed : Nat}

/-- Only the reader says that more bytes are needed. -/
theorem decode_eq_incomplete_iff :
    decode input = .error .incomplete ↔ Datum.read input = .incomplete := by
  unfold decode
  cases Datum.read input with
  | incomplete => simp
  | invalid fault consumed => simp
  | datum value consumed =>
    simp only [reduceCtorEq, iff_false]
    split <;> simp

/-- A response is decoded exactly from a datum of one of the shapes. -/
theorem decode_eq_ok_iff :
    decode input = .ok (response, consumed) ↔
      ∃ datum, Datum.read input = .datum datum consumed ∧ Tells datum response := by
  unfold decode
  cases Datum.read input with
  | incomplete => simp
  | invalid fault consumed => simp
  | datum value taken =>
    simp only [Datum.Reading.datum.injEq, ← ofDatum?_eq_ok_iff]
    constructor
    · intro h
      split at h
      · next found =>
        obtain ⟨rfl, rfl⟩ := Prod.mk.inj (Except.ok.inj h)
        exact ⟨value, ⟨rfl, rfl⟩, found⟩
      · exact absurd h (by simp)
    · rintro ⟨_, ⟨rfl, rfl⟩, found⟩
      rw [found]

/-- Every other datum is a violation, and is taken off the stream as a whole. -/
theorem decode_of_not_tells (hd : Datum.read input = .datum datum consumed)
    (h : ∀ response, ¬ Tells datum response) :
    ∃ why, decode input = .error (.violation (.mismatch why) consumed) := by
  cases ho : ofDatum? datum with
  | ok response => exact absurd (ofDatum?_eq_ok_iff.mp ho) (h response)
  | error why => exact ⟨why, by simp only [decode, hd, ho]⟩

/-- A response from the stream is in a faithful form if there is no double in it. -/
theorem Tells.isFaithful (h : Tells datum response) (hd : Datum.read input = .datum datum consumed)
    (hf : response.outcome.IsFloatFree) : response.outcome.IsFaithful := by
  cases h with
  | @value id value hv =>
    have hmem : value ∈ [.symbol successWord, .str id, value] := by simp
    obtain ⟨⟨own, hw⟩, hn⟩ := Datum.written_of_mem hd hmem
    exact ⟨hw.isPlain hf, hv, hn⟩
  | _ => trivial

/-- A response from the stream is decoded from the line that the interpreter would
write for it. -/
theorem decode_bytes_of_decode (h : decode input = .ok (response, consumed))
    (hf : response.outcome.IsFloatFree) :
    decode response.bytes = .ok (response, response.bytes.length - 1) := by
  obtain ⟨datum, hd, ht⟩ := decode_eq_ok_iff.mp h
  exact decode_bytes (ht.isFaithful hd hf)

/-- Responses with the same line are the same. -/
theorem eq_of_wire_eq {first second : Response} {taken : Nat}
    (h : decode input = .ok (first, consumed)) (hf : first.outcome.IsFloatFree)
    {other : Bytes} (h' : decode other = .ok (second, taken)) (hf' : second.outcome.IsFloatFree)
    (hw : first.wire = second.wire) : first = second := by
  have hfirst := decode_bytes_of_decode h hf
  have hsecond := decode_bytes_of_decode h' hf'
  rw [bytes, hw, ← bytes, hsecond] at hfirst
  exact (Prod.mk.inj (Except.ok.inj hfirst)).1.symm

/-- Decoding waits exactly if the reader does, accepts exactly the shapes of a
response, takes every other datum as a whole, and brings what it accepts into one
form: a response without doubles has one line, which is decoded to this response and
to its end. -/
theorem decode_shapes (input : Bytes) :
    (decode input = .error .incomplete ↔ Datum.read input = .incomplete) ∧
      (∀ datum consumed, Datum.read input = .datum datum consumed →
        (∀ response, Tells datum response → decode input = .ok (response, consumed)) ∧
          ((∀ response, ¬ Tells datum response) →
            ∃ why, decode input = .error (.violation why consumed))) ∧
      (∀ response consumed, decode input = .ok (response, consumed) →
        (∃ datum, Datum.read input = .datum datum consumed ∧ Tells datum response) ∧
          (response.outcome.IsFloatFree →
            decode response.bytes = .ok (response, response.bytes.length - 1) ∧
              ∀ other second taken, decode other = .ok (second, taken) →
                second.outcome.IsFloatFree →
                  (response.wire = second.wire ↔ response = second))) := by
  refine ⟨decode_eq_incomplete_iff, fun datum consumed hd => ⟨fun response ht => ?_, fun hn => ?_⟩,
    fun response consumed h => ⟨decode_eq_ok_iff.mp h, fun hf => ?_⟩⟩
  · exact decode_eq_ok_iff.mpr ⟨datum, hd, ht⟩
  · obtain ⟨why, he⟩ := decode_of_not_tells hd hn
    exact ⟨_, he⟩
  · refine ⟨decode_bytes_of_decode h hf, fun other second taken h' hf' => ?_⟩
    exact ⟨eq_of_wire_eq h hf h' hf', fun he => he ▸ rfl⟩

/-- A failure whose frames are a symbol and a string. -/
def mixedFrames : Datum :=
  .list [.symbol failureWord, .str "a", .str "m", .list [.symbol "f", .str "g"]]

/-- It is decoded to the failure with two frames, and so is the line of that failure,
where both are strings. -/
theorem decode_mixedFrames :
    Datum.read (Utf8.encode mixedFrames.display.toList ++ [])
        = .datum mixedFrames (Utf8.size mixedFrames.display.toList) ∧
      Tells mixedFrames ⟨"a", .failure ⟨"m", ["f", "g"]⟩⟩ ∧
      decode (Utf8.encode mixedFrames.display.toList ++ [])
        = .ok (⟨"a", .failure ⟨"m", ["f", "g"]⟩⟩, Utf8.size mixedFrames.display.toList) ∧
      decode (bytes ⟨"a", .failure ⟨"m", ["f", "g"]⟩⟩)
        = .ok (⟨"a", .failure ⟨"m", ["f", "g"]⟩⟩, 36) := by
  have hsymbol : Datum.IsReadable "f" := Datum.isReadable_of_all (by decide) (by decide) (by rfl)
  have hplain : mixedFrames.IsPlain :=
    ⟨isReadable_failureWord, trivial, trivial, ⟨hsymbol, trivial, trivial⟩, trivial⟩
  have hread := Datum.read_display mixedFrames hplain (by decide) [] fun hw => Bool.noConfusion hw
  have htells : Tells mixedFrames ⟨"a", .failure ⟨"m", ["f", "g"]⟩⟩ :=
    .traced "a" "m" (.list (.cons (.symbol "f") (.cons (.str "g") .nil)))
  have hdecode := ((decode_shapes _).2.1 _ _ hread).1 _ htells
  have hline := (((decode_shapes _).2.2 _ _ hdecode).2 trivial).1
  have hlength : (bytes ⟨"a", .failure ⟨"m", ["f", "g"]⟩⟩).length = 37 := by decide +kernel
  rw [hlength] at hline
  exact ⟨hread, htells, hdecode, hline⟩

end Decoding

end Response

end ReplLink
