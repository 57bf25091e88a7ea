import ReplLink.Proofs.Datum.Growth
import ReplLink.Stream.Inbox

/-!
# A whole stream, decoded at once

`decodeAll` is the plain way to read a stream that is there as a whole: it
takes one response or violation off the front after the other. What a chunked
stream delivers is compared with it. Two decodings of nearly the same bytes,
one with blanks in front that the other does not have, or with a run of
closing brackets cut in two, give the same reports.
-/

namespace ReplLink.Stream

open ReplLink.Text

/-- What one reading of the stream tells: a response, or why there is none. -/
abbrev Result := Except Response.Violation Response

/-- A result of decoding and the bytes that it took. -/
structure Decoded where
  /-- The response, or the violation in its place. -/
  result : Result
  /-- The number of bytes up to its end. -/
  consumed : Nat

/-- A whole stream, decoded. -/
structure Decoding where
  /-- The results in order. -/
  results : List Decoded
  /-- The bytes that no datum could be read from. -/
  rest : Bytes

/-- A decoding with one more result in front. -/
def Decoding.after (decoding : Decoding) (result : Result) (consumed : Nat) : Decoding :=
  ⟨⟨result, consumed⟩ :: decoding.results, decoding.rest⟩

/-- Takes responses and violations off the front of a byte string until what
is left is incomplete. -/
def decodeAll (input : Bytes) : Decoding :=
  match _decoded : Response.decode input with
  | .ok (response, consumed) => (decodeAll (input.drop consumed)).after (.ok response) consumed
  | .error (.violation why consumed) =>
    (decodeAll (input.drop consumed)).after (.error why) consumed
  | .error .incomplete => ⟨[], input⟩
termination_by input.length
decreasing_by
  · have := Response.consumed_of_decode _decoded
    rw [List.length_drop]
    omega
  · have := Response.consumed_of_decode_violation _decoded
    rw [List.length_drop]
    omega

/-- The reply of `Response.decode` that brings a result. -/
def Result.reply (result : Result) (consumed : Nat) : Except Response.Rejection (Response × Nat) :=
  match result with
  | .ok response => .ok (response, consumed)
  | .error why => .error (.violation why consumed)

/-- A result goes in front of what the bytes behind it bring. -/
theorem decodeAll_of_reply {input : Bytes} {result : Result} {consumed : Nat}
    (h : Response.decode input = Result.reply result consumed) :
    decodeAll input = (decodeAll (input.drop consumed)).after result consumed := by
  rw [decodeAll.eq_def]
  cases result <;> simp only [Result.reply] at h <;> split <;> simp_all

/-- Where more bytes are needed, nothing is told and all bytes are left. -/
theorem decodeAll_of_incomplete {input : Bytes}
    (h : Response.decode input = .error .incomplete) : decodeAll input = ⟨[], input⟩ := by
  rw [decodeAll.eq_def]
  split <;> simp_all

/-- What a datum of the stream tells. -/
def resultOf (value : Datum) : Result :=
  match Response.ofDatum? value with
  | .ok response => .ok response
  | .error why => .error (.mismatch why)

/-- The result for a bracket that closes nothing. -/
def unmatched (offset : Nat) : Result := .error (.unreadable (.unmatchedClose offset))

/-- The result for nesting beyond the limit. -/
def nestedTooDeep : Result := .error (.unreadable .tooDeep)

/-- What a verdict of the reader means for the response in front. -/
theorem decode_of_datum {input rest : Bytes} {value : Datum}
    (h : Datum.readInside [] input = .datum value rest) :
    Response.decode input = Result.reply (resultOf value) (input.length - rest.length) := by
  rw [Response.decode, Datum.read, h]
  simp only [resultOf]
  cases Response.ofDatum? value <;> rfl

/-- A stray closing paren is told of, and those behind it are skipped with it. -/
theorem decode_of_unmatchedClose {input rest : Bytes}
    (h : Datum.readInside [] input = .unmatchedClose rest) :
    Response.decode input = Result.reply (unmatched (input.length - rest.length - 1))
      (input.length - (Datum.skipCloses rest).length) := by
  rw [Response.decode, Datum.read, h]
  rfl

/-- Nesting that is too deep costs the whole input. -/
theorem decode_of_tooDeep {input : Bytes} (h : Datum.readInside [] input = .tooDeep) :
    Response.decode input = Result.reply nestedTooDeep input.length := by
  rw [Response.decode, Datum.read, h]
  rfl

/-- A datum that is not complete is a response that is not complete. -/
theorem decode_of_incomplete {input : Bytes} (h : Datum.readInside [] input = .incomplete) :
    Response.decode input = .error .incomplete := by
  rw [Response.decode, Datum.read, h]

/-- Dropping the bytes that were taken leaves the rest. -/
theorem drop_of_suffix {rest input : Bytes} (h : rest <:+ input) :
    input.drop (input.length - rest.length) = rest := by
  obtain ⟨front, rfl⟩ := h
  rw [List.length_append, Nat.add_sub_cancel, List.drop_left]

/-- What is left behind a datum is the end of the input. -/
theorem suffix_of_datum {input rest : Bytes} {value : Datum}
    (h : Datum.readInside [] input = .datum value rest) : rest <:+ input := by
  have hs := Datum.readInside_suffix [] input
  rwa [h] at hs

/-- What is left behind stray closing parens is the end of the input. -/
theorem suffix_of_unmatchedClose {input rest : Bytes}
    (h : Datum.readInside [] input = .unmatchedClose rest) :
    Datum.skipCloses rest <:+ input := by
  have hs := Datum.readInside_suffix [] input
  rw [h] at hs
  exact (List.dropWhile_suffix _).trans hs

/-- A datum is told of before what is behind it. -/
theorem decodeAll_of_datum {input rest : Bytes} {value : Datum}
    (h : Datum.readInside [] input = .datum value rest) :
    decodeAll input = (decodeAll rest).after (resultOf value) (input.length - rest.length) := by
  rw [decodeAll_of_reply (decode_of_datum h), drop_of_suffix (suffix_of_datum h)]

/-- Stray closing parens are told of before what is behind them. -/
theorem decodeAll_of_unmatchedClose {input rest : Bytes}
    (h : Datum.readInside [] input = .unmatchedClose rest) :
    decodeAll input = (decodeAll (Datum.skipCloses rest)).after
      (unmatched (input.length - rest.length - 1))
      (input.length - (Datum.skipCloses rest).length) := by
  rw [decodeAll_of_reply (decode_of_unmatchedClose h), drop_of_suffix (suffix_of_unmatchedClose h)]

/-- The result is about a bracket that closes nothing. How many of them are
reported together depends on where the stream is cut. -/
def isUnmatched : Result → Bool
  | .error (.unreadable (.unmatchedClose _)) => true
  | _ => false

/-- The results that do not depend on where the stream is cut. -/
def reports (results : List Result) : List Result := results.filter fun r => !isUnmatched r

@[simp] theorem reports_append (first second : List Result) :
    reports (first ++ second) = reports first ++ reports second := List.filter_append ..

/-- The results of a decoding without their counts. -/
def Decoding.told (decoding : Decoding) : List Result := decoding.results.map (·.result)

@[simp] theorem told_after (decoding : Decoding) (result : Result) (consumed : Nat) :
    (decoding.after result consumed).told = result :: decoding.told := rfl

/-- No result and no rest is longer than a buffer may get. -/
structure Decoding.Fits (limit : Nat) (decoding : Decoding) : Prop where
  /-- Each result takes few enough bytes. -/
  consumed : ∀ decoded ∈ decoding.results, decoded.consumed ≤ limit
  /-- So does what is left. -/
  rest : decoding.rest.length ≤ limit

/-- A decoding is the same as some results followed by another decoding, but
for counts and unmatched brackets. -/
structure Splits (whole : Decoding) (front : List Result) (back : Decoding) : Prop where
  /-- The same reports come in the same order. -/
  reports_eq : reports whole.told = reports (front ++ back.told)
  /-- An unmatched bracket is found in both or in the whole. -/
  has_unmatched : ∀ r ∈ front ++ back.told, isUnmatched r = true →
    ∃ r ∈ whole.told, isUnmatched r = true
  /-- The rest has lost no byte at its end. -/
  rest : back.rest <:+ whole.rest
  /-- Nothing has grown. -/
  fits : ∀ limit, whole.Fits limit → back.Fits limit

/-- No result is in front of the whole. -/
theorem Splits.refl (decoding : Decoding) : Splits decoding [] decoding where
  reports_eq := rfl
  has_unmatched := fun r hr hu => ⟨r, hr, hu⟩
  rest := List.suffix_rfl
  fits := fun _ h => h

/-- Results in front of the rest add up. -/
theorem Splits.trans {whole middle back : Decoding} {first second : List Result}
    (h : Splits whole first middle) (h' : Splits middle second back) :
    Splits whole (first ++ second) back where
  reports_eq := by
    rw [h.reports_eq, reports_append, h'.reports_eq, ← reports_append, List.append_assoc]
  has_unmatched := by
    intro r hr hu
    rw [List.append_assoc, List.mem_append] at hr
    rcases hr with hr | hr
    · exact h.has_unmatched r (List.mem_append_left _ hr) hu
    · obtain ⟨r', hr', hu'⟩ := h'.has_unmatched r hr hu
      exact h.has_unmatched r' (List.mem_append_right _ hr') hu'
  rest := h'.rest.trans h.rest
  fits := fun limit hf => h'.fits limit (h.fits limit hf)

/-- A result in front comes off. -/
theorem Splits.after (decoding : Decoding) (result : Result) (consumed : Nat) :
    Splits (decoding.after result consumed) [result] decoding where
  reports_eq := rfl
  has_unmatched := fun r hr hu => ⟨r, hr, hu⟩
  rest := List.suffix_rfl
  fits := fun _ h => ⟨fun d hd => h.consumed d (List.mem_cons_of_mem _ hd), h.rest⟩

/-- The same result may take fewer bytes. -/
theorem Splits.after_le (decoding : Decoding) {result other : Result} {consumed fewer : Nat}
    (hr : reports [result] = reports [other]) (hu : isUnmatched result = isUnmatched other)
    (hc : fewer ≤ consumed) :
    Splits (decoding.after result consumed) [] (decoding.after other fewer) where
  reports_eq := by
    have hcons (r : Result) : reports (r :: decoding.told) = reports [r] ++ reports decoding.told :=
      reports_append [r] decoding.told
    rw [List.nil_append, told_after, told_after, hcons, hcons, hr]
  has_unmatched := by
    intro r hr hu'
    rw [List.nil_append, told_after] at hr
    rcases List.mem_cons.mp hr with rfl | hr
    · exact ⟨result, List.mem_cons_self, hu.trans hu'⟩
    · exact ⟨r, List.mem_cons_of_mem _ hr, hu'⟩
  rest := List.suffix_rfl
  fits := by
    intro limit h
    refine ⟨fun d hd => ?_, h.rest⟩
    rcases List.mem_cons.mp hd with rfl | hd
    · exact Nat.le_trans hc (h.consumed _ List.mem_cons_self)
    · exact h.consumed d (List.mem_cons_of_mem _ hd)

/-- Blanks in front of a stream change no report. -/
theorem Splits.blank {whole back : Bytes}
    (h : Datum.skipBlank false whole = Datum.skipBlank false back) (hs : back <:+ whole) :
    Splits (decodeAll whole) [] (decodeAll back) := by
  have hl := hs.length_le
  have hr := Datum.readInside_congr h []
  match hv : Datum.readInside [] back with
  | .datum value rest =>
    rw [decodeAll_of_datum hv, decodeAll_of_datum (hr.trans hv)]
    exact Splits.after_le _ (rfl) (rfl) (by omega)
  | .unmatchedClose rest =>
    rw [decodeAll_of_unmatchedClose hv, decodeAll_of_unmatchedClose (hr.trans hv)]
    exact Splits.after_le _ (rfl) (rfl) (by omega)
  | .tooDeep =>
    rw [decodeAll_of_reply (decode_of_tooDeep hv),
      decodeAll_of_reply (decode_of_tooDeep (hr.trans hv)), List.drop_length, List.drop_length]
    exact Splits.after_le _ (rfl) (rfl) hl
  | .incomplete =>
    rw [decodeAll_of_incomplete (decode_of_incomplete hv),
      decodeAll_of_incomplete (decode_of_incomplete (hr.trans hv))]
    exact ⟨rfl, fun r hr hu => ⟨r, hr, hu⟩, hs, fun _ hf => ⟨hf.consumed, Nat.le_trans hl hf.rest⟩⟩

/-- An unmatched bracket in front is not reported. -/
theorem Splits.after_unmatched (decoding : Decoding) (offset consumed : Nat) :
    Splits (decoding.after (unmatched offset) consumed) [] decoding where
  reports_eq := rfl
  has_unmatched := fun r hr hu => ⟨r, List.mem_cons_of_mem _ hr, hu⟩
  rest := List.suffix_rfl
  fits := fun _ h => ⟨fun d hd => h.consumed d (List.mem_cons_of_mem _ hd), h.rest⟩

/-- Where an unmatched bracket is found, another one may be told in front. -/
theorem Splits.cons_unmatched {whole back : Decoding} (h : Splits whole [] back)
    (hw : ∃ r ∈ whole.told, isUnmatched r = true) (offset : Nat) :
    Splits whole [unmatched offset] back where
  reports_eq := h.reports_eq
  has_unmatched := fun _ _ _ => hw
  rest := h.rest
  fits := h.fits

/-- A run of closing brackets may be taken off in two parts. -/
theorem Splits.skipCloses {input rest back : Bytes}
    (h : Datum.readInside [] input = .unmatchedClose rest)
    (hc : Datum.skipCloses rest = Datum.skipCloses back) (hs : back <:+ rest) (offset : Nat) :
    Splits (decodeAll input) [unmatched offset] (decodeAll back) := by
  have hd := decodeAll_of_unmatchedClose h
  rw [hd]
  refine Splits.cons_unmatched ?_ ⟨_, List.mem_cons_self, rfl⟩ offset
  rw [hc]
  by_cases hb : back.head? = some Ascii.listClose
  · -- What is left of the run is reported once more.
    obtain ⟨tail, rfl⟩ := List.head?_eq_some_iff.mp hb
    have hv : Datum.readInside [] (Ascii.listClose :: tail) = .unmatchedClose tail :=
      Datum.readInside_unmatched (Datum.piece?_listClose tail)
    have hk : Datum.skipCloses (Ascii.listClose :: tail) = Datum.skipCloses tail := rfl
    have hr : rest <:+ input := by
      have hi := Datum.readInside_suffix [] input
      rwa [h] at hi
    have hl := (hs.trans hr).length_le
    rw [decodeAll_of_unmatchedClose hv, hk]
    exact Splits.after_le _ rfl rfl (by omega)
  · have hk : Datum.skipCloses back = back := by
      cases back with
      | nil => rfl
      | cons b tail => exact List.dropWhile_cons_of_neg (by simpa using hb)
    rw [hk]
    exact Splits.after_unmatched _ _ _

end ReplLink.Stream
