import ReplLink.Proofs.Datum.Rereading
import ReplLink.Proofs.Stream.Wires

/-!
# A response behind a rejected datum

A list that is no response is skipped to its last byte, and the response on the
next line comes out, however the two are cut into chunks. That holds for lists up
to the limit of nesting and for no others. Beyond the limit the reader gives up in
the middle of the list without knowing where it ends, and the inbox drops all that
it holds, a response that arrived in the same chunk included.
-/

namespace ReplLink

open ReplLink.Text

namespace Response

/-- The outcome among separate elements makes a response of separate words. -/
theorem isSeparate_of_outcome? {head : String} {items rest : List Datum} {outcome : Outcome}
    (hi : Datum.AreSeparate items) (h : outcome? head items = .ok (outcome, rest)) (id : String) :
    (toDatum ⟨id, outcome⟩).IsSeparate := by
  have hsuccess {value : Datum} (hv : value.IsSeparate) :
      (Datum.list [.symbol successWord, .str id, value]).IsSeparate :=
    ⟨⟨isReadable_successWord.nonempty, isReadable_successWord.separate⟩, trivial, hv, trivial⟩
  have hnothing : (Datum.symbol nothingWord).IsSeparate :=
    ⟨isReadable_nothingWord.nonempty, isReadable_nothingWord.separate⟩
  have hfailure (failure : Failure) : (toDatum ⟨id, .failure failure⟩).IsSeparate :=
    ⟨⟨isReadable_failureWord.nonempty, isReadable_failureWord.separate⟩, trivial, trivial,
      (Datum.rereadItems_of_arePlain _ (arePlain_map_str failure.stack)).1, trivial⟩
  unfold outcome? at h
  split at h
  · split at h
    · obtain ⟨rfl, -⟩ := Prod.mk.inj (Except.ok.inj h)
      exact hsuccess hnothing
    · obtain ⟨rfl, -⟩ := Prod.mk.inj (Except.ok.inj h)
      split
      · exact hsuccess hnothing
      · exact hsuccess hi.1
    · obtain ⟨rfl, -⟩ := Prod.mk.inj (Except.ok.inj h)
      exact hsuccess hi.1
  · repeat' split at h
    all_goals first
      | obtain ⟨rfl, -⟩ := Prod.mk.inj (Except.ok.inj h)
        exact hfailure _
      | exact absurd h (by simp)

/-- A response that a datum of separate words tells is written in separate words. -/
theorem isSeparate_toDatum {value : Datum} {answer : Response} (hv : value.IsSeparate)
    (h : ofDatum? value = .ok answer) : answer.toDatum.IsSeparate := by
  unfold ofDatum? at h
  split at h
  · next head id items =>
    split at h
    · next outcome ho =>
      rw [← Except.ok.inj h]
      exact isSeparate_of_outcome? hv.2.2 ho id
    all_goals exact absurd h (by simp)
  all_goals exact absurd h (by simp)

/-- A response that is decoded from its own line takes all of the line but its end. -/
theorem exists_readInside_of_decode {answer : Response} {consumed : Nat}
    (h : decode answer.bytes = .ok (answer, consumed)) :
    ∃ value, ofDatum? value = .ok answer ∧
      Datum.readInside [] answer.bytes = .datum value [Ascii.lineFeed] := by
  match hv : Datum.readInside [] answer.bytes with
  | .datum value rest =>
    have hvalue : ofDatum? value = .ok answer := by
      rw [Stream.decode_of_datum hv, Stream.resultOf] at h
      cases ho : ofDatum? value with
      | error why =>
        rw [ho] at h
        exact absurd h (by simp [Stream.Result.reply])
      | ok other =>
        rw [ho] at h
        rw [(Prod.mk.inj (Except.ok.inj h)).1]
    obtain ⟨gap, text, -, -, hw, -⟩ := Datum.reads_of_readInside hv
    have hseparate := isSeparate_toDatum hw.isSeparate hvalue
    have hlist : answer.toDatum.reread.isWord = true → Datum.StartsWithDelimiter
        [Ascii.lineFeed] := fun _ => ⟨_, [], rfl, rfl⟩
    rw [bytes_eq] at hv
    obtain ⟨-, -, rfl⟩ := Datum.eq_of_readInside_print hseparate hlist hv
    exact ⟨value, hvalue, rfl⟩
  | .unmatchedClose rest =>
    rw [Stream.decode_of_unmatchedClose hv] at h
    exact absurd h (by simp [Stream.Result.reply, Stream.unmatched])
  | .tooDeep =>
    rw [Stream.decode_of_tooDeep hv] at h
    exact absurd h (by simp [Stream.Result.reply, Stream.nestedTooDeep])
  | .incomplete =>
    rw [Stream.decode_of_incomplete hv] at h
    exact absurd h (by simp)

/-- A response in a faithful form is decoded from its own line. -/
theorem decode_bytes {answer : Response} (h : answer.outcome.IsFaithful) :
    decode answer.bytes = .ok (answer, answer.bytes.length - 1) := by
  have hread : Datum.readInside [] answer.bytes = .datum answer.toDatum [Ascii.lineFeed] := by
    rw [bytes_eq]
    exact readInside_toDatum h [Ascii.lineFeed]
  rw [Stream.decode_of_datum hread, Stream.resultOf, ofDatum?_toDatum h]
  rfl

end Response

namespace Stream

open Response

variable {items : List Datum} {text : Bytes} {why : Mismatch} {answer : Response}
  {consumed limit : Nat}

/-- At once, the list tells that it is no response and its successor tells the
response. -/
theorem decodeAll_behind_rejected (hw : Datum.Written (.list items) text)
    (hn : (Datum.list items).nesting ≤ Datum.depthLimit)
    (hr : ofDatum? (.list items) = .error why)
    (ha : decode answer.bytes = .ok (answer, consumed))
    (hl : (text ++ Ascii.lineFeed :: answer.bytes).length ≤ limit) :
    (decodeAll (text ++ Ascii.lineFeed :: answer.bytes)).told = [.error (.mismatch why), .ok answer]
      ∧ (decodeAll (text ++ Ascii.lineFeed :: answer.bytes)).Fits limit := by
  obtain ⟨value, hvalue, hread⟩ := exists_readInside_of_decode ha
  have hroom : ([] : List (List Datum)).length + (Datum.list items).nesting ≤ Datum.depthLimit := by
    rw [List.length_nil, Nat.zero_add]
    exact hn
  have hfirst := hw.readInside [] hroom (Ascii.lineFeed :: answer.bytes)
    fun hword => absurd hword (by simp [Datum.isWord])
  have hskip : Datum.skipBlank false (Ascii.lineFeed :: answer.bytes)
      = Datum.skipBlank false answer.bytes := rfl
  have hsecond := (Datum.readInside_congr hskip []).trans hread
  have hend : Datum.readInside [] [Ascii.lineFeed] = .incomplete :=
    Datum.readInside_of_none rfl []
  have herror : resultOf (.list items) = .error (.mismatch why) := by rw [resultOf, hr]
  have hanswer : resultOf value = .ok answer := by rw [resultOf, hvalue]
  rw [decodeAll_of_datum hfirst, decodeAll_of_datum hsecond,
    decodeAll_of_incomplete (decode_of_incomplete hend), herror, hanswer]
  rw [List.length_append, List.length_cons] at hl
  refine ⟨rfl, fun decoded hd => ?_, ?_⟩
  · rcases List.mem_cons.mp hd with rfl | hd
    · simp only [List.length_append, List.length_cons]
      omega
    · rw [List.mem_singleton.mp hd]
      simp only [List.length_cons]
      omega
  · have hrest : [Ascii.lineFeed].length ≤ limit := by
      rw [List.length_singleton]
      omega
    exact hrest

namespace Inbox

/-- A list within the limit of nesting costs no neighbour. -/
theorem responses_behind_rejected (hw : Datum.Written (.list items) text)
    (hn : (Datum.list items).nesting ≤ Datum.depthLimit)
    (hr : ofDatum? (.list items) = .error why)
    (ha : decode answer.bytes = .ok (answer, consumed))
    (hl : (text ++ Ascii.lineFeed :: answer.bytes).length ≤ limit) {chunks : List Bytes}
    (hc : chunks.flatten = text ++ Ascii.lineFeed :: answer.bytes) :
    responses ((empty limit).receiveAll chunks).1 = [answer] := by
  obtain ⟨htold, hfits⟩ := decodeAll_behind_rejected hw hn hr ha hl
  rw [← hc] at htold hfits
  have hnone : ∀ r ∈ (decodeAll chunks.flatten).told,
      isUnmatched r = false ∧ r ≠ nestedTooDeep := by
    rw [htold]
    exact List.forall_mem_cons.mpr
      ⟨⟨rfl, by simp [nestedTooDeep]⟩, List.forall_mem_singleton.mpr ⟨rfl, by simp [nestedTooDeep]⟩⟩
  have hkeep : KeepsLimits ((empty limit).receiveAll chunks).1 :=
    (waits_empty limit).keepsLimits hfits fun hn => (hnone _ hn).2 rfl
  rw [responses_eq_reports, told_receiveAll hkeep fun r hr => (hnone r hr).1, htold]
  rfl

/-- A list beyond the limit costs all that arrives with it. -/
theorem responses_receiveAll_of_tooDeep {buffer : Bytes}
    (h : Datum.readInside [] buffer = .tooDeep) (limit : Nat) :
    responses ((empty limit).receiveAll [buffer]).1 = [] := by
  have hreceive : (empty limit).receive buffer = deliver ⟨limit, buffer, .fresh⟩ :=
    (waits_empty limit).receive buffer
  rw [receiveAll, receiveAll, hreceive, deliver_of_tooDeep h]
  rfl

/-- A list that is no response never costs the response behind it, exactly if it
is within the limit of nesting. -/
theorem responses_behind_rejected_iff (hw : Datum.Written (.list items) text)
    (hr : ofDatum? (.list items) = .error why)
    (ha : decode answer.bytes = .ok (answer, consumed))
    (hl : (text ++ Ascii.lineFeed :: answer.bytes).length ≤ limit) :
    (∀ chunks : List Bytes, chunks.flatten = text ++ Ascii.lineFeed :: answer.bytes →
        responses ((empty limit).receiveAll chunks).1 = [answer])
      ↔ (Datum.list items).nesting ≤ Datum.depthLimit := by
  constructor
  · intro h
    refine Nat.le_of_not_lt fun hdeep => ?_
    have hd : Datum.depthLimit
        < ([] : List (List Datum)).length + (Datum.list items).nesting := by
      rw [List.length_nil, Nat.zero_add]
      exact hdeep
    have htooDeep := hw.tooDeep [] (Nat.zero_le _) hd (Ascii.lineFeed :: answer.bytes)
    have hone := h [text ++ Ascii.lineFeed :: answer.bytes] (List.flatten_singleton)
    rw [responses_receiveAll_of_tooDeep htooDeep limit] at hone
    exact absurd hone (List.cons_ne_nil _ _).symm
  · exact fun hn chunks hc => responses_behind_rejected hw hn hr ha hl hc

/-- So many opening brackets, and as many that close them. -/
def brackets (count : Nat) : Bytes :=
  List.replicate count Ascii.listOpen ++ List.replicate count Ascii.listClose

/-- They write the empty list inside one list less. -/
theorem written_brackets (depth : Nat) :
    Datum.Written (Datum.enclosed (.list []) depth) (brackets (depth + 1)) := by
  induction depth with
  | zero => exact .list (.nil .empty)
  | succ depth ih =>
    have hitems := Datum.WrittenItems.cons .empty ih (.nil .empty)
      fun _ => Datum.startsWithDelimiter_listClose []
    have hbytes : brackets (depth + 2)
        = Ascii.listOpen :: ([] ++ brackets (depth + 1) ++ []) ++ [Ascii.listClose] := by
      rw [List.nil_append, List.append_nil, List.cons_append, brackets, brackets,
        List.replicate_succ, List.replicate_succ' (a := Ascii.listClose), List.cons_append,
        List.append_assoc]
    rw [hbytes]
    exact .list hitems

theorem length_brackets (count : Nat) : (brackets count).length = 2 * count := by
  rw [brackets, List.length_append, List.length_replicate, List.length_replicate, Nat.two_mul]

/-- An answer without anything special. -/
def oneAnswer : Response := ⟨"a", .success (some (.int 1))⟩

theorem decode_oneAnswer : decode oneAnswer.bytes = .ok (oneAnswer, 21) := by
  have hfaithful : oneAnswer.outcome.IsFaithful := ⟨trivial, by simp, by decide⟩
  have hlength : oneAnswer.bytes.length = 22 := by decide +kernel
  rw [decode_bytes hfaithful, hlength]

theorem length_brackets_oneAnswer (count : Nat) :
    (brackets count ++ Ascii.lineFeed :: oneAnswer.bytes).length = 2 * count + 23 := by
  have hlength : oneAnswer.bytes.length = 22 := by decide +kernel
  rw [List.length_append, length_brackets, List.length_cons, hlength]

/-- The deepest brackets that may be are skipped, and the answer behind them comes
out of a buffer that just holds both. -/
theorem responses_behind_deepest_brackets :
    Datum.Written (.list [Datum.enclosed (.list []) 510]) (brackets 512) ∧
      ofDatum? (.list [Datum.enclosed (.list []) 510]) = .error .noHead ∧
      decode oneAnswer.bytes = .ok (oneAnswer, 21) ∧
      (brackets 512 ++ Ascii.lineFeed :: oneAnswer.bytes).length ≤ 1047 ∧
      ∀ chunks : List Bytes, chunks.flatten = brackets 512 ++ Ascii.lineFeed :: oneAnswer.bytes →
        responses ((empty 1047).receiveAll chunks).1 = [oneAnswer] := by
  have hw : Datum.Written (.list [Datum.enclosed (.list []) 510]) (brackets 512) :=
    written_brackets 511
  have hr : ofDatum? (.list [Datum.enclosed (.list []) 510]) = .error .noHead := rfl
  have hl : (brackets 512 ++ Ascii.lineFeed :: oneAnswer.bytes).length ≤ 1047 :=
    Nat.le_of_eq (length_brackets_oneAnswer 512)
  have hn : (Datum.list [Datum.enclosed (.list []) 510]).nesting ≤ Datum.depthLimit :=
    Nat.le_of_eq (Datum.nesting_enclosed (.list []) 511)
  exact ⟨hw, hr, decode_oneAnswer, hl,
    (responses_behind_rejected_iff hw hr decode_oneAnswer hl).mpr hn⟩

/-- One pair of brackets more in the same chunk, and the answer is lost, although the
buffer would hold both. -/
theorem responses_lost_behind_brackets :
    Datum.Written (.list [Datum.enclosed (.list []) 511]) (brackets 513) ∧
      ofDatum? (.list [Datum.enclosed (.list []) 511]) = .error .noHead ∧
      decode oneAnswer.bytes = .ok (oneAnswer, 21) ∧
      (brackets 513 ++ Ascii.lineFeed :: oneAnswer.bytes).length ≤ defaultLimit ∧
      responses ((empty defaultLimit).receiveAll
        [brackets 513 ++ Ascii.lineFeed :: oneAnswer.bytes]).1 = [] := by
  have hw : Datum.Written (.list [Datum.enclosed (.list []) 511]) (brackets 513) :=
    written_brackets 512
  have hl : (brackets 513 ++ Ascii.lineFeed :: oneAnswer.bytes).length ≤ defaultLimit := by
    rw [length_brackets_oneAnswer]
    decide
  have hn : (Datum.list [Datum.enclosed (.list []) 511]).nesting = 513 :=
    Datum.nesting_enclosed (.list []) 512
  have hdeep : Datum.depthLimit < ([] : List (List Datum)).length
      + (Datum.list [Datum.enclosed (.list []) 511]).nesting := by
    rw [hn]
    decide
  have htooDeep := hw.tooDeep [] (Nat.zero_le _) hdeep (Ascii.lineFeed :: oneAnswer.bytes)
  exact ⟨hw, rfl, decode_oneAnswer, hl, responses_receiveAll_of_tooDeep htooDeep defaultLimit⟩

end Inbox

end Stream

end ReplLink
