import ReplLink.Proofs.Datum.Printed
import ReplLink.Proofs.Stream.Chunks

/-!
# Responses over the wire

Responses written one after the other and cut into chunks anywhere come out of
an inbox as they went in, as long as the buffer holds the longest of them. How
many there are does not matter: the line break behind a response may arrive in
the next chunk, but nothing else of it is kept.
-/

namespace ReplLink

open ReplLink.Text

/-- The outcome is written in a form that tells it: a value is plain, is not the
keyword for no value, and leaves room for the list around it. -/
def Outcome.IsFaithful : Outcome → Prop
  | .success none => True
  | .success (some value) =>
    value.IsPlain ∧ value ≠ .symbol Response.nothingWord ∧ value.nesting < Datum.depthLimit
  | .failure _ => True

namespace Response

/-- The line of a response as bytes. -/
def bytes (response : Response) : Bytes := Utf8.encode response.wire.toList

/-- The words of a response are symbols when they are read. -/
theorem isReadable_successWord : Datum.IsReadable successWord :=
  Datum.isReadable_of_all (by decide) (by decide) (by rfl)

theorem isReadable_failureWord : Datum.IsReadable failureWord :=
  Datum.isReadable_of_all (by decide) (by decide) (by rfl)

theorem isReadable_nothingWord : Datum.IsReadable nothingWord :=
  Datum.isReadable_of_all (by decide) (by decide) (by rfl)

/-- Strings are plain, and no lists. -/
theorem arePlain_map_str (texts : List String) : Datum.ArePlain (texts.map .str) := by
  induction texts with
  | nil => trivial
  | cons text rest ih => exact ⟨trivial, ih⟩

theorem nestingIn_map_str (texts : List String) : Datum.nestingIn (texts.map .str) = 0 := by
  induction texts with
  | nil => rfl
  | cons text rest ih => rw [List.map_cons, Datum.nestingIn, ih]; rfl

/-- Strings are the names of themselves. -/
theorem names?_map_str (texts : List String) :
    (Datum.list (texts.map .str)).names? = some texts := by
  rw [Datum.names?, Datum.elements?, Option.bind_some]
  induction texts with
  | nil => rfl
  | cons text rest ih => rw [List.map_cons, List.mapM_cons, ih]; rfl

/-- The datum of a response is plain. -/
theorem isPlain_toDatum {response : Response} (h : response.outcome.IsFaithful) :
    response.toDatum.IsPlain := by
  obtain ⟨id, outcome⟩ := response
  match outcome with
  | .success none => exact ⟨isReadable_successWord, trivial, isReadable_nothingWord, trivial⟩
  | .success (some value) => exact ⟨isReadable_successWord, trivial, h.1, trivial⟩
  | .failure failure =>
    exact ⟨isReadable_failureWord, trivial, trivial, arePlain_map_str failure.stack, trivial⟩

/-- The datum of a response nests no deeper than the reader can follow. -/
theorem nesting_toDatum {response : Response} (h : response.outcome.IsFaithful) :
    response.toDatum.nesting ≤ Datum.depthLimit := by
  obtain ⟨id, outcome⟩ := response
  match outcome with
  | .success none => exact (by decide : 1 ≤ Datum.depthLimit)
  | .success (some value) =>
    have hv : value.nesting < Datum.depthLimit := h.2.2
    simp only [toDatum, Option.getD_some, Datum.nesting, Datum.nestingIn]
    omega
  | .failure failure =>
    have hs := nestingIn_map_str failure.stack
    simp only [toDatum, Datum.nesting, Datum.nestingIn, hs]
    decide

/-- The datum of a response tells that response. -/
theorem ofDatum?_toDatum {response : Response} (h : response.outcome.IsFaithful) :
    ofDatum? response.toDatum = .ok response := by
  obtain ⟨id, outcome⟩ := response
  match outcome with
  | .success none => rfl
  | .success (some value) =>
    cases value with
    | symbol name =>
      have hn : name ≠ nothingWord := fun he => h.2.1 (he ▸ rfl)
      simp [ofDatum?, toDatum, outcome?, hn]
    | _ => rfl
  | .failure failure =>
    have hne : ¬failureWord = successWord := by decide
    simp only [ofDatum?, toDatum, outcome?, if_neg hne, if_true, names?_map_str]

theorem bytes_eq (response : Response) :
    response.bytes = Utf8.encode response.toDatum.print ++ [Ascii.lineFeed] := by
  rw [bytes, wire, Datum.display, String.toList_append, String.toList_ofList, Utf8.encode_append]
  rfl

/-- The datum of a response is read off the front, whatever follows. -/
theorem readInside_toDatum {response : Response} (h : response.outcome.IsFaithful)
    (rest : Bytes) :
    Datum.readInside [] (Utf8.encode response.toDatum.print ++ rest)
      = .datum response.toDatum rest := by
  refine Datum.readInside_print _ (isPlain_toDatum h) [] ?_ rest fun hw => ?_
  · rw [List.length_nil, Nat.zero_add]
    exact nesting_toDatum h
  · obtain ⟨id, outcome⟩ := response
    cases outcome <;> exact absurd hw (by simp [toDatum, Datum.isWord])

end Response

namespace Stream

open Response

/-- The lines of responses, one behind the other. -/
def wires (answers : List Response) : Bytes := answers.flatMap Response.bytes

theorem wires_cons (answer : Response) (rest : List Response) :
    wires (answer :: rest)
      = Utf8.encode answer.toDatum.print ++ ([Ascii.lineFeed] ++ wires rest) := by
  rw [wires, List.flatMap_cons, bytes_eq, List.append_assoc]
  rfl

/-- Behind at most one line break the first response is read, and its own line
break is left. -/
theorem readInside_wires {answer : Response} (h : answer.outcome.IsFaithful)
    (rest : List Response) {front : Bytes} (hf : front = [] ∨ front = [Ascii.lineFeed]) :
    Datum.readInside [] (front ++ wires (answer :: rest))
      = .datum answer.toDatum ([Ascii.lineFeed] ++ wires rest) := by
  rw [wires_cons, ← readInside_toDatum h]
  rcases hf with rfl | rfl
  · rfl
  · have hskip (input : Bytes) : Datum.skipBlank false ([Ascii.lineFeed] ++ input)
        = Datum.skipBlank false input := rfl
    exact Datum.readInside_congr (hskip _) []

/-- Behind at most one line break, lines of responses are decoded to these
responses. Each takes the line break in front of it in place of its own, and
the last line break is left over. -/
theorem decodeAll_wires {answers : List Response} {limit : Nat}
    (hp : ∀ answer ∈ answers, answer.outcome.IsFaithful)
    (hl : ∀ answer ∈ answers, answer.bytes.length ≤ limit) {front : Bytes}
    (hf : front = [] ∨ front = [Ascii.lineFeed] ∧ 1 ≤ limit) :
    (decodeAll (front ++ wires answers)).told = answers.map .ok ∧
      (decodeAll (front ++ wires answers)).Fits limit ∧
      (decodeAll (front ++ wires answers)).rest <:+ [Ascii.lineFeed] := by
  induction answers generalizing front with
  | nil =>
    have hi : Datum.readInside [] front = .incomplete := by
      rcases hf with rfl | ⟨rfl, -⟩ <;> exact Datum.readInside_of_none rfl []
    rw [wires, List.flatMap_nil, List.append_nil, decodeAll_of_incomplete (decode_of_incomplete hi)]
    refine ⟨rfl, ⟨fun d hd => absurd hd List.not_mem_nil, ?_⟩, ?_⟩
    · rcases hf with rfl | ⟨rfl, h1⟩
      · exact Nat.zero_le limit
      · exact h1
    · rcases hf with rfl | ⟨rfl, -⟩
      · exact List.nil_suffix
      · exact List.suffix_rfl
  | cons answer rest ih =>
    have hfaith := hp answer List.mem_cons_self
    have hbytes := hl answer List.mem_cons_self
    have hlength : answer.bytes.length = (Utf8.encode answer.toDatum.print).length + 1 := by
      rw [bytes_eq, List.length_append]
      rfl
    have hfront : front.length ≤ 1 := by
      rcases hf with rfl | ⟨rfl, -⟩ <;> decide
    have hread := readInside_wires hfaith rest (hf.imp id And.left)
    obtain ⟨htold, hfits, hrest⟩ := ih (fun a ha => hp a (List.mem_cons_of_mem _ ha))
      (fun a ha => hl a (List.mem_cons_of_mem _ ha)) (.inr ⟨rfl, by omega⟩)
    have hresult : resultOf answer.toDatum = .ok answer := by
      rw [resultOf, ofDatum?_toDatum hfaith]
    rw [decodeAll_of_datum hread, told_after, htold, hresult]
    refine ⟨rfl, ⟨fun d hd => ?_, hfits.rest⟩, hrest⟩
    rcases List.mem_cons.mp hd with rfl | hd
    · simp only [wires_cons, List.length_append]
      omega
    · exact hfits.consumed d hd

/-- A delivery that tells a response is its delivery. -/
theorem eq_response_of_result {delivery : Delivery} {answer : Response}
    (h : delivery.result = .ok answer) : delivery = .response answer := by
  cases delivery with
  | response other => rw [Except.ok.inj h]
  | violation why consumed => exact absurd h (by simp [Delivery.result])

/-- So deliveries that tell responses in order are those of the responses. -/
theorem eq_map_response {deliveries : List Delivery} {answers : List Response}
    (h : deliveries.map Delivery.result = answers.map .ok) :
    deliveries = answers.map .response := by
  induction answers generalizing deliveries with
  | nil => exact List.map_eq_nil_iff.mp h
  | cons answer rest ih =>
    obtain ⟨delivery, others, rfl, hd, ho⟩ := List.map_eq_cons_iff.mp h
    rw [eq_response_of_result hd, ih ho, List.map_cons]

namespace Inbox

/-- An inbox that waits with at most a line break waits with nothing. -/
theorem Waits.eq_empty {inbox : Inbox} (h : inbox.Waits)
    (hb : inbox.buffer <:+ [Ascii.lineFeed]) : inbox = empty inbox.limit := by
  obtain ⟨limit, buffer, scan⟩ := inbox
  have hs := h.scanned
  rcases List.suffix_cons_iff.mp hb with hb | hb
  · dsimp only at hb hs
    subst hb
    rcases h.started with he | he
    · exact absurd he (List.cons_ne_nil _ _)
    · have hblank : scan.isBlankSoFar = true := (Prod.mk.inj hs).2 ▸ rfl
      exact absurd hblank (by simp [he])
  · exact h.eq_empty_of_nil (List.suffix_nil.mp hb)

/-- Lines of responses come out as these responses and nothing else, and leave
nothing behind, however they are cut, if the buffer may hold the longest of
them. -/
theorem receiveAll_wires (limit : Nat) (answers : List Response) (chunks : List Bytes)
    (hp : ∀ answer ∈ answers, answer.outcome.IsFaithful)
    (hl : ∀ answer ∈ answers, answer.bytes.length ≤ limit)
    (hc : chunks.flatten = wires answers) :
    (empty limit).receiveAll chunks = (answers.map .response, empty limit) := by
  obtain ⟨htold, hfits, hrest⟩ := decodeAll_wires hp hl (.inl rfl)
  rw [List.nil_append, ← hc] at htold hfits hrest
  have hnone : ∀ r ∈ (decodeAll chunks.flatten).told,
      isUnmatched r = false ∧ r ≠ nestedTooDeep := by
    intro r hr
    rw [htold] at hr
    obtain ⟨answer, -, rfl⟩ := List.mem_map.mp hr
    exact ⟨rfl, by simp [nestedTooDeep]⟩
  have hkeep : KeepsLimits ((empty limit).receiveAll chunks).1 :=
    (waits_empty limit).keepsLimits hfits fun hn => (hnone _ hn).2 rfl
  have hd := eq_map_response
    ((told_receiveAll hkeep fun r hr => (hnone r hr).1).trans htold)
  have hrun := (waits_empty limit).run chunks
  have hbuffer := (splits_receiveAll hkeep).rest.trans hrest
  refine Prod.ext hd ?_
  rw [hrun.1.eq_empty hbuffer, hrun.2]
  rfl

/-- A value with escapes and a symbol, a failure without an id, and an answer
without a value. -/
def mixedAnswers : List Response :=
  [⟨"a\"\\\n", .success (some (.list [.int (-7), .str "x;) é", .symbol "nil"]))⟩,
    ⟨"", .failure ⟨"no\tway", ["f 1", ""]⟩⟩, ⟨"b", .success none⟩]

/-- One byte at a time, through a buffer that is shorter than two of them. -/
theorem receiveAll_wires_mixedAnswers :
    (∀ answer ∈ mixedAnswers, answer.outcome.IsFaithful) ∧
      (∀ answer ∈ mixedAnswers, answer.bytes.length ≤ 48) ∧
      (empty 48).receiveAll ((wires mixedAnswers).map fun b => [b])
        = (mixedAnswers.map .response, empty 48) := by
  have hnil : Datum.IsReadable "nil" := Datum.isReadable_of_all (by decide) (by decide) (by rfl)
  have hp : ∀ answer ∈ mixedAnswers, answer.outcome.IsFaithful := by
    intro answer ha
    simp only [mixedAnswers, List.mem_cons, List.not_mem_nil, or_false] at ha
    rcases ha with rfl | rfl | rfl
    · exact ⟨⟨trivial, trivial, hnil, trivial⟩, by simp, by decide⟩
    · trivial
    · trivial
  have hl : ∀ answer ∈ mixedAnswers, answer.bytes.length ≤ 48 := by decide +kernel
  have hc : ((wires mixedAnswers).map fun b => [b]).flatten = wires mixedAnswers := by
    decide +kernel
  exact ⟨hp, hl, receiveAll_wires 48 mixedAnswers _ hp hl hc⟩

end Inbox

end Stream

end ReplLink
