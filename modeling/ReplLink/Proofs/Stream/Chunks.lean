import ReplLink.Proofs.Stream.Decoding
import ReplLink.Proofs.Stream.Scan

/-!
# A stream in chunks

However a stream is cut, an inbox delivers what decoding the whole of it at
once tells, as long as the limits of nesting and of the buffer are kept. Between
two chunks an inbox holds the beginning of one datum or comment, or nothing,
and its scan is the scan of just these bytes. Each round of the delivery takes
one result off the front of the stream.
-/

namespace ReplLink.Stream

open ReplLink.Text

/-- What a delivery tells, without the number of bytes that were dropped. -/
def Delivery.result : Delivery → Result
  | .response answer => .ok answer
  | .violation why _ => .error why

/-- The delivery of a result that took so many bytes. -/
def Delivery.ofResult (result : Result) (consumed : Nat) : Delivery :=
  match result with
  | .ok answer => .response answer
  | .error why => .violation why consumed

@[simp] theorem result_ofResult (result : Result) (consumed : Nat) :
    (Delivery.ofResult result consumed).result = result := by
  cases result <;> rfl

namespace Inbox

/-- Delivery depends on the scan only through what it goes on to find. -/
theorem deliver_congr {inbox other : Inbox} (hl : inbox.limit = other.limit)
    (hb : inbox.buffer = other.buffer) (hs : inbox.scanOn = other.scanOn) :
    inbox.deliver = other.deliver := by
  obtain ⟨limit, buffer, scan⟩ := inbox
  obtain ⟨_, _, scan'⟩ := other
  dsimp only at hl hb
  subst hl hb
  rw [deliver.eq_def, deliver.eq_def, hs]
  rfl

/-- A result that is complete comes off the front. -/
theorem deliver_of_reply {limit consumed : Nat} {buffer : Bytes} {result : Result}
    (hf : EndScan.fresh.found buffer = .ended)
    (h : Response.decode buffer = Result.reply result consumed) :
    deliver ⟨limit, buffer, .fresh⟩
      = (.ofResult result consumed ::
          (deliver ⟨limit, (buffer.drop consumed).dropWhile Ascii.isBlank, .fresh⟩).1,
        (deliver ⟨limit, (buffer.drop consumed).dropWhile Ascii.isBlank, .fresh⟩).2) := by
  rw [deliver.eq_def]
  have hs : scanOn ⟨limit, buffer, .fresh⟩ = (.ended, (EndScan.fresh.run buffer).2) :=
    Prod.ext hf rfl
  rw [hs]
  cases result <;> simp only [Result.reply] at h <;> dsimp only <;> split <;>
    simp_all [dropFront, Delivery.ofResult]

/-- A datum comes off the front. -/
theorem deliver_of_datum {limit : Nat} {buffer rest : Bytes} {value : Datum}
    (h : Datum.readInside [] buffer = .datum value rest) :
    deliver ⟨limit, buffer, .fresh⟩
      = (.ofResult (resultOf value) (buffer.length - rest.length) ::
          (deliver ⟨limit, rest.dropWhile Ascii.isBlank, .fresh⟩).1,
        (deliver ⟨limit, rest.dropWhile Ascii.isBlank, .fresh⟩).2) := by
  have hf : EndScan.fresh.found buffer = .ended := by rw [EndScan.found_fresh, h]; rfl
  rw [deliver_of_reply hf (decode_of_datum h), drop_of_suffix (suffix_of_datum h)]

/-- A run of brackets that close nothing comes off the front. -/
theorem deliver_of_unmatchedClose {limit : Nat} {buffer rest : Bytes}
    (h : Datum.readInside [] buffer = .unmatchedClose rest) :
    deliver ⟨limit, buffer, .fresh⟩
      = (.ofResult (unmatched (buffer.length - rest.length - 1))
            (buffer.length - (Datum.skipCloses rest).length) ::
          (deliver ⟨limit, (Datum.skipCloses rest).dropWhile Ascii.isBlank, .fresh⟩).1,
        (deliver ⟨limit, (Datum.skipCloses rest).dropWhile Ascii.isBlank, .fresh⟩).2) := by
  have hf : EndScan.fresh.found buffer = .ended := by rw [EndScan.found_fresh, h]; rfl
  rw [deliver_of_reply hf (decode_of_unmatchedClose h), drop_of_suffix (suffix_of_unmatchedClose h)]

/-- Nesting beyond the limit costs the whole buffer. -/
theorem deliver_of_tooDeep {limit : Nat} {buffer : Bytes}
    (h : Datum.readInside [] buffer = .tooDeep) :
    deliver ⟨limit, buffer, .fresh⟩
      = ([.ofResult nestedTooDeep buffer.length], empty limit) := by
  have hf : EndScan.fresh.found buffer = .tooDeep := by rw [EndScan.found_fresh, h]; rfl
  have hs : scanOn ⟨limit, buffer, .fresh⟩ = (.tooDeep, (EndScan.fresh.run buffer).2) :=
    Prod.ext hf rfl
  rw [deliver.eq_def, hs]
  rfl

/-- A buffer without a complete datum is settled. -/
theorem deliver_of_incomplete {limit : Nat} {buffer : Bytes}
    (h : Datum.readInside [] buffer = .incomplete) :
    deliver ⟨limit, buffer, .fresh⟩
      = settle ⟨limit, buffer, (EndScan.fresh.run buffer).2⟩ := by
  have hf : EndScan.fresh.found buffer = .goesOn := by rw [EndScan.found_fresh, h]; rfl
  have hs : scanOn ⟨limit, buffer, .fresh⟩ = (.goesOn, (EndScan.fresh.run buffer).2) :=
    Prod.ext hf rfl
  rw [deliver.eq_def, hs]

/-- The scan of an incomplete buffer goes on. -/
theorem run_of_incomplete {buffer : Bytes} (h : Datum.readInside [] buffer = .incomplete) :
    EndScan.fresh.run buffer = (.goesOn, (EndScan.fresh.run buffer).2) := by
  have hf : EndScan.fresh.found buffer = .goesOn := by rw [EndScan.found_fresh, h]; rfl
  exact Prod.ext hf rfl

/-- Induction on the rounds of a delivery: each takes a datum or a run of
brackets and the blanks behind it off the buffer. -/
theorem rounds_induction {motive : Bytes → Prop}
    (datum : ∀ buffer value rest, Datum.readInside [] buffer = .datum value rest →
      motive (rest.dropWhile Ascii.isBlank) → motive buffer)
    (unmatchedClose : ∀ buffer rest, Datum.readInside [] buffer = .unmatchedClose rest →
      motive ((Datum.skipCloses rest).dropWhile Ascii.isBlank) → motive buffer)
    (tooDeep : ∀ buffer, Datum.readInside [] buffer = .tooDeep → motive buffer)
    (incomplete : ∀ buffer, Datum.readInside [] buffer = .incomplete → motive buffer)
    (buffer : Bytes) : motive buffer := by
  induction hn : buffer.length using Nat.strongRecOn generalizing buffer with
  | ind n ih =>
    have hleft := Datum.left_readInside [] buffer
    match hv : Datum.readInside [] buffer with
    | .datum value rest =>
      rw [hv] at hleft
      have hl : rest.length < buffer.length := hleft.resolve_left (by simp)
      have hd := (List.dropWhile_suffix (l := rest) Ascii.isBlank).length_le
      exact datum buffer value rest hv (ih _ (by omega) _ rfl)
    | .unmatchedClose rest =>
      rw [hv] at hleft
      have hl : rest.length < buffer.length := hleft.resolve_left (by simp)
      have hc : (Datum.skipCloses rest).length ≤ rest.length :=
        (List.dropWhile_suffix _).length_le
      have hd := (List.dropWhile_suffix (l := Datum.skipCloses rest) Ascii.isBlank).length_le
      exact unmatchedClose buffer rest hv (ih _ (by omega) _ rfl)
    | .tooDeep => exact tooDeep buffer hv
    | .incomplete => exact incomplete buffer hv

/-- Between two chunks: every byte is scanned and nothing is decided, and what
is held is the beginning of a datum or of a comment, or nothing. -/
structure Waits (inbox : Inbox) : Prop where
  /-- The scan is a fresh scan of the whole buffer, and goes on. -/
  scanned : EndScan.fresh.run inbox.buffer = (.goesOn, inbox.scan)
  /-- No blanks are kept for nothing. -/
  started : inbox.buffer = [] ∨ inbox.scan.isBlankSoFar = false

theorem waits_empty (limit : Nat) : (empty limit).Waits := ⟨rfl, .inl rfl⟩

/-- An inbox that waits without any bytes is as good as new. -/
theorem Waits.eq_empty_of_nil {inbox : Inbox} (h : inbox.Waits) (hb : inbox.buffer = []) :
    inbox = empty inbox.limit := by
  obtain ⟨limit, buffer, scan⟩ := inbox
  have hs := h.scanned
  dsimp only at hb hs
  subst hb
  rw [← (Prod.mk.inj hs).2]
  rfl

/-- A chunk is delivered as if nothing before it had been scanned. -/
theorem Waits.receive {inbox : Inbox} (h : inbox.Waits) (chunk : Bytes) :
    inbox.receive chunk = deliver ⟨inbox.limit, inbox.buffer ++ chunk, .fresh⟩ := by
  have hp := EndScan.position_run h.scanned
  refine deliver_congr rfl rfl ?_
  have hz : EndScan.fresh.position = 0 := rfl
  unfold scanOn
  dsimp only
  rw [hp, hz, Nat.zero_add, List.drop_left, List.drop_zero, EndScan.run_append h.scanned]

/-- Blanks and finished comments are dropped to the last byte. -/
theorem settle_of_blank {limit : Nat} {buffer : Bytes} {scan : EndScan}
    (h : EndScan.fresh.run buffer = (.goesOn, scan)) (hb : scan.isBlankSoFar = true) :
    settle ⟨limit, buffer, scan⟩ = ([], empty limit) := by
  have hp := EndScan.position_run h
  have hd : dropFront ⟨limit, buffer, scan⟩ scan.position = empty limit := by
    rw [dropFront, hp]
    simp [EndScan.fresh, empty]
  rw [settle, if_pos hb, hd]

/-- Settling leaves an inbox that waits. -/
theorem waits_settle {limit : Nat} {buffer : Bytes} {scan : EndScan}
    (h : EndScan.fresh.run buffer = (.goesOn, scan)) :
    (settle ⟨limit, buffer, scan⟩).2.Waits ∧ (settle ⟨limit, buffer, scan⟩).2.limit = limit := by
  by_cases hb : scan.isBlankSoFar = true
  · rw [settle_of_blank h hb]
    exact ⟨waits_empty limit, rfl⟩
  rw [settle, if_neg hb]
  split
  · exact ⟨waits_empty limit, rfl⟩
  · exact ⟨⟨h, .inr (by simpa using hb)⟩, rfl⟩

/-- Whatever a buffer holds, what its delivery leaves waits. -/
theorem waits_deliver (limit : Nat) (buffer : Bytes) :
    (deliver ⟨limit, buffer, .fresh⟩).2.Waits ∧
      (deliver ⟨limit, buffer, .fresh⟩).2.limit = limit := by
  induction buffer using rounds_induction with
  | datum buffer value rest h ih => rw [deliver_of_datum h]; exact ih
  | unmatchedClose buffer rest h ih => rw [deliver_of_unmatchedClose h]; exact ih
  | tooDeep buffer h => rw [deliver_of_tooDeep h]; exact ⟨waits_empty limit, rfl⟩
  | incomplete buffer h =>
    rw [deliver_of_incomplete h]
    exact waits_settle (run_of_incomplete h)

end Inbox

/-- The result is about a limit: of nesting or of the buffer. -/
def isOverLimit : Result → Bool
  | .error (.unreadable .tooDeep) => true
  | .error (.oversized _) => true
  | _ => false

theorem isOverLimit_resultOf (value : Datum) : isOverLimit (resultOf value) = false := by
  rw [resultOf]
  cases Response.ofDatum? value <;> rfl

/-- Nothing that is delivered is about a limit. -/
def KeepsLimits (deliveries : List Delivery) : Prop :=
  ∀ delivery ∈ deliveries, isOverLimit delivery.result = false

/-- The blanks behind a datum may go with it. -/
theorem skipBlank_dropWhile_append (input more : Bytes) :
    Datum.skipBlank false (input ++ more)
      = Datum.skipBlank false (input.dropWhile Ascii.isBlank ++ more) := by
  induction input with
  | nil => rfl
  | cons b rest ih =>
    cases hb : Ascii.isBlank b with
    | false => rw [List.dropWhile_cons_of_neg (by simp [hb])]
    | true =>
      have hs : (b == Ascii.semicolon) = false := by
        simp only [Ascii.isBlank, Bool.or_eq_true, beq_iff_eq] at hb
        rcases hb with (((rfl | rfl) | rfl) | rfl) | rfl <;> rfl
      rw [List.dropWhile_cons_of_pos hb, List.cons_append, Datum.skipBlank, if_neg (by simp [hs]),
        if_pos hb, ih]

/-- Dropping the blanks in front of a buffer changes no report of the stream. -/
theorem Splits.dropWhile_blank (buffer more : Bytes) :
    Splits (decodeAll (buffer ++ more)) []
      (decodeAll (buffer.dropWhile Ascii.isBlank ++ more)) := by
  obtain ⟨blank, hblank⟩ := List.dropWhile_suffix (l := buffer) Ascii.isBlank
  refine Splits.blank (skipBlank_dropWhile_append buffer more) ⟨blank, ?_⟩
  rw [← List.append_assoc, hblank]

/-- A run of closing brackets may be dropped in two parts. -/
theorem skipCloses_append (first second : Bytes) :
    Datum.skipCloses (first ++ second)
      = Datum.skipCloses (Datum.skipCloses first ++ second) := by
  induction first with
  | nil => rfl
  | cons b rest ih =>
    cases hb : b == Ascii.listClose with
    | false => simp [Datum.skipCloses, hb]
    | true =>
      have hc (tail : Bytes) : Datum.skipCloses (b :: tail) = Datum.skipCloses tail := by
        simp [Datum.skipCloses, hb]
      rw [List.cons_append, hc, hc, ih]

/-- A round of delivery that takes a datum takes it off the whole stream. -/
theorem Splits.datum {buffer rest : Bytes} {value : Datum}
    (h : Datum.readInside [] buffer = .datum value rest) (more : Bytes) :
    Splits (decodeAll (buffer ++ more)) [resultOf value]
      (decodeAll (rest.dropWhile Ascii.isBlank ++ more)) := by
  have ha : Datum.readInside [] (buffer ++ more) = .datum value (rest ++ more) := by
    rw [Datum.readInside_append (by rw [h]; simp), h]
    rfl
  rw [decodeAll_of_datum ha]
  exact (Splits.after _ _ _).trans (Splits.dropWhile_blank rest more)

/-- A round that takes a run of closing brackets takes what is there of it. -/
theorem Splits.closes {buffer rest : Bytes}
    (h : Datum.readInside [] buffer = .unmatchedClose rest) (more : Bytes) (offset : Nat) :
    Splits (decodeAll (buffer ++ more)) [unmatched offset]
      (decodeAll ((Datum.skipCloses rest).dropWhile Ascii.isBlank ++ more)) := by
  have ha : Datum.readInside [] (buffer ++ more) = .unmatchedClose (rest ++ more) := by
    rw [Datum.readInside_append (by rw [h]; simp), h]
    rfl
  obtain ⟨closes, hcloses⟩ : Datum.skipCloses rest <:+ rest := List.dropWhile_suffix _
  have hs : Datum.skipCloses rest ++ more <:+ rest ++ more :=
    ⟨closes, by rw [← List.append_assoc, hcloses]⟩
  have hskip := Splits.skipCloses ha (skipCloses_append rest more) hs offset
  exact hskip.trans (Splits.dropWhile_blank _ more)

theorem Splits.not_nested {whole back : Decoding} {front : List Result}
    (h : Splits whole front back) (hn : nestedTooDeep ∉ whole.told) :
    nestedTooDeep ∉ back.told := by
  intro hb
  have hr : nestedTooDeep ∈ reports (front ++ back.told) :=
    List.mem_filter.mpr ⟨List.mem_append_right _ hb, rfl⟩
  rw [← h.reports_eq] at hr
  exact hn (List.mem_filter.mp hr).1

/-- A stream that keeps the limits has no longer unfinished datum at its
front. -/
theorem length_le_of_fits {limit : Nat} {buffer more : Bytes}
    (h : Datum.readInside [] buffer = .incomplete)
    (hf : (decodeAll (buffer ++ more)).Fits limit)
    (hn : nestedTooDeep ∉ (decodeAll (buffer ++ more)).told) : buffer.length ≤ limit := by
  have hleft := Datum.left_readInside_of_incomplete h more
  have hlen : (buffer ++ more).length = buffer.length + more.length := List.length_append
  match hv : Datum.readInside [] (buffer ++ more) with
  | .datum value rest =>
    rw [decodeAll_of_datum hv] at hf
    have hc := hf.consumed _ List.mem_cons_self
    rw [hv] at hleft
    dsimp only [Datum.Verdict.left] at hc hleft
    omega
  | .unmatchedClose rest =>
    rw [decodeAll_of_unmatchedClose hv] at hf
    have hc := hf.consumed _ List.mem_cons_self
    have hk : (Datum.skipCloses rest).length ≤ rest.length :=
      (List.dropWhile_suffix _).length_le
    rw [hv] at hleft
    dsimp only [Datum.Verdict.left] at hc hleft
    omega
  | .tooDeep =>
    rw [decodeAll_of_reply (decode_of_tooDeep hv)] at hn
    exact absurd List.mem_cons_self hn
  | .incomplete =>
    rw [decodeAll_of_incomplete (decode_of_incomplete hv)] at hf
    have hr := hf.rest
    dsimp only at hr
    omega

namespace Inbox

/-- What is delivered comes off the front of the stream, as long as it is not
about a limit. -/
theorem splits_deliver {limit : Nat} {buffer : Bytes}
    (hk : KeepsLimits (deliver ⟨limit, buffer, .fresh⟩).1) (more : Bytes) :
    Splits (decodeAll (buffer ++ more))
      ((deliver ⟨limit, buffer, .fresh⟩).1.map Delivery.result)
      (decodeAll ((deliver ⟨limit, buffer, .fresh⟩).2.buffer ++ more)) := by
  induction buffer using rounds_induction with
  | datum buffer value rest h ih =>
    rw [deliver_of_datum h] at hk ⊢
    have ht := ih fun d hd => hk d (List.mem_cons_of_mem _ hd)
    rw [List.map_cons, result_ofResult]
    exact (Splits.datum h more).trans ht
  | unmatchedClose buffer rest h ih =>
    rw [deliver_of_unmatchedClose h] at hk ⊢
    have ht := ih fun d hd => hk d (List.mem_cons_of_mem _ hd)
    rw [List.map_cons, result_ofResult]
    exact (Splits.closes h more _).trans ht
  | tooDeep buffer h =>
    rw [deliver_of_tooDeep h] at hk
    have hf := hk _ List.mem_cons_self
    rw [result_ofResult] at hf
    simp [nestedTooDeep, isOverLimit] at hf
  | incomplete buffer h =>
    rw [deliver_of_incomplete h] at hk ⊢
    have hr := run_of_incomplete h
    by_cases hb : (EndScan.fresh.run buffer).2.isBlankSoFar = true
    · rw [settle_of_blank hr hb]
      have hskip := @EndScan.skipBlank_append_of_run false 0 buffer _ hr hb more
      exact Splits.blank hskip (List.suffix_append buffer more)
    · rw [settle, if_neg hb] at hk ⊢
      by_cases hl : limit < buffer.length
      · rw [if_pos hl] at hk
        have hf := hk _ List.mem_cons_self
        simp [Delivery.result, isOverLimit] at hf
      · rw [if_neg hl]
        exact Splits.refl _

/-- A stream that keeps the limits when it is decoded at once keeps them when
it is delivered. -/
theorem keepsLimits_deliver {limit : Nat} {buffer more : Bytes}
    (hf : (decodeAll (buffer ++ more)).Fits limit)
    (hn : nestedTooDeep ∉ (decodeAll (buffer ++ more)).told) :
    KeepsLimits (deliver ⟨limit, buffer, .fresh⟩).1 := by
  induction buffer using rounds_induction with
  | datum buffer value rest h ih =>
    have hs := Splits.datum h more
    have ht := ih (hs.fits limit hf) (hs.not_nested hn)
    rw [deliver_of_datum h]
    intro d hd
    rcases List.mem_cons.mp hd with rfl | hd
    · rw [result_ofResult, isOverLimit_resultOf]
    · exact ht d hd
  | unmatchedClose buffer rest h ih =>
    have hs := Splits.closes h more 0
    have ht := ih (hs.fits limit hf) (hs.not_nested hn)
    rw [deliver_of_unmatchedClose h]
    intro d hd
    rcases List.mem_cons.mp hd with rfl | hd
    · rw [result_ofResult]
      rfl
    · exact ht d hd
  | tooDeep buffer h =>
    have ha : Datum.readInside [] (buffer ++ more) = .tooDeep := by
      rw [Datum.readInside_append (by rw [h]; simp), h]
      rfl
    rw [decodeAll_of_reply (decode_of_tooDeep ha)] at hn
    exact absurd List.mem_cons_self hn
  | incomplete buffer h =>
    have hr := run_of_incomplete h
    have hl := length_le_of_fits h hf hn
    rw [deliver_of_incomplete h, settle]
    split
    · intro d hd
      simp at hd
    · rw [if_neg (by simpa using hl)]
      intro d hd
      simp at hd

/-- An inbox that waits holds no complete datum. -/
theorem Waits.readInside {inbox : Inbox} (h : inbox.Waits) :
    Datum.readInside [] inbox.buffer = .incomplete := by
  have hf := EndScan.found_fresh inbox.buffer
  rw [EndScan.found, h.scanned] at hf
  cases hv : Datum.readInside [] inbox.buffer <;> rw [hv] at hf <;>
    simp [Found.ofVerdict] at hf

/-- Receives chunks one after the other and hands out all that they complete. -/
def receiveAll (inbox : Inbox) : List Bytes → List Delivery × Inbox
  | [] => ([], inbox)
  | chunk :: rest =>
    ((inbox.receive chunk).1 ++ ((inbox.receive chunk).2.receiveAll rest).1,
      ((inbox.receive chunk).2.receiveAll rest).2)

/-- An inbox waits again behind every chunk. -/
theorem Waits.step {inbox : Inbox} (h : inbox.Waits) (chunk : Bytes) :
    (inbox.receive chunk).2.Waits ∧ (inbox.receive chunk).2.limit = inbox.limit := by
  rw [h.receive]
  exact waits_deliver _ _

theorem Waits.run {inbox : Inbox} (h : inbox.Waits) (chunks : List Bytes) :
    (inbox.receiveAll chunks).2.Waits ∧ (inbox.receiveAll chunks).2.limit = inbox.limit := by
  induction chunks generalizing inbox with
  | nil => exact ⟨h, rfl⟩
  | cons chunk rest ih =>
    obtain ⟨hw, hl⟩ := h.step chunk
    obtain ⟨hw', hl'⟩ := ih hw
    exact ⟨hw', hl'.trans hl⟩

/-- What chunks deliver comes off the front of the stream that starts with the
bytes already held. -/
theorem Waits.splits {inbox : Inbox} (h : inbox.Waits) {chunks : List Bytes}
    (hk : KeepsLimits (inbox.receiveAll chunks).1) (more : Bytes) :
    Splits (decodeAll (inbox.buffer ++ (chunks.flatten ++ more)))
      ((inbox.receiveAll chunks).1.map Delivery.result)
      (decodeAll ((inbox.receiveAll chunks).2.buffer ++ more)) := by
  induction chunks generalizing inbox with
  | nil => exact Splits.refl _
  | cons chunk rest ih =>
    have hfirst : KeepsLimits (inbox.receive chunk).1 :=
      fun d hd => hk d (List.mem_append_left _ hd)
    have hrest : KeepsLimits ((inbox.receive chunk).2.receiveAll rest).1 :=
      fun d hd => hk d (List.mem_append_right _ hd)
    have ht := ih (h.step chunk).1 hrest
    rw [h.receive] at hfirst
    have hs := splits_deliver hfirst (rest.flatten ++ more)
    rw [← h.receive] at hs
    rw [List.flatten_cons, List.append_assoc, ← List.append_assoc inbox.buffer, receiveAll,
      List.map_append]
    exact hs.trans ht

/-- A stream that keeps the limits when it is decoded at once keeps them in
any chunks. -/
theorem Waits.keepsLimits {inbox : Inbox} (h : inbox.Waits) {chunks : List Bytes}
    (hf : (decodeAll (inbox.buffer ++ chunks.flatten)).Fits inbox.limit)
    (hn : nestedTooDeep ∉ (decodeAll (inbox.buffer ++ chunks.flatten)).told) :
    KeepsLimits (inbox.receiveAll chunks).1 := by
  induction chunks generalizing inbox with
  | nil =>
    intro d hd
    simp [receiveAll] at hd
  | cons chunk rest ih =>
    rw [List.flatten_cons, ← List.append_assoc] at hf hn
    have hfirst := keepsLimits_deliver hf hn
    have hs := splits_deliver hfirst rest.flatten
    rw [← h.receive] at hfirst hs
    obtain ⟨hw, hl⟩ := h.step chunk
    have ht := ih hw (hl ▸ hs.fits inbox.limit hf) (hs.not_nested hn)
    intro d hd
    rcases List.mem_append.mp hd with hd | hd
    · exact hfirst d hd
    · exact ht d hd

/-- The responses among what is delivered. -/
def responses (deliveries : List Delivery) : List Response :=
  deliveries.filterMap fun
    | .response response => some response
    | .violation .. => none

theorem responses_eq_reports (deliveries : List Delivery) :
    responses deliveries
      = (reports (deliveries.map Delivery.result)).filterMap Except.toOption := by
  induction deliveries with
  | nil => rfl
  | cons delivery rest ih =>
    have hcons (r : Result) (results : List Result) :
        reports (r :: results) = reports [r] ++ reports results := reports_append [r] results
    rw [List.map_cons, hcons, List.filterMap_append, ← ih]
    match delivery with
    | .response response => rfl
    | .violation why consumed =>
      cases hu : isUnmatched (.error why) <;>
        simp [responses, reports, Delivery.result, hu, Except.toOption]

/-- A fresh inbox delivers the whole stream, up to the datum that has not
ended. -/
theorem splits_receiveAll {limit : Nat} {chunks : List Bytes}
    (hk : KeepsLimits ((empty limit).receiveAll chunks).1) :
    Splits (decodeAll chunks.flatten) (((empty limit).receiveAll chunks).1.map Delivery.result)
      ⟨[], ((empty limit).receiveAll chunks).2.buffer⟩ := by
  have hw := ((waits_empty limit).run chunks).1
  have hs := (waits_empty limit).splits hk []
  rw [List.append_nil, List.append_nil,
    decodeAll_of_incomplete (decode_of_incomplete hw.readInside)] at hs
  exact hs

/-- A stream without unmatched brackets tells the same results in chunks. -/
theorem told_receiveAll {limit : Nat} {chunks : List Bytes}
    (hk : KeepsLimits ((empty limit).receiveAll chunks).1)
    (hu : ∀ r ∈ (decodeAll chunks.flatten).told, isUnmatched r = false) :
    ((empty limit).receiveAll chunks).1.map Delivery.result = (decodeAll chunks.flatten).told := by
  have hs := splits_receiveAll hk
  have hall (results : List Result) (h : ∀ r ∈ results, isUnmatched r = false) :
      reports results = results := List.filter_eq_self.mpr fun r hr => by simp [h r hr]
  have hd : ∀ r ∈ ((empty limit).receiveAll chunks).1.map Delivery.result,
      isUnmatched r = false := by
    intro r hr
    cases hr' : isUnmatched r with
    | false => rfl
    | true =>
      obtain ⟨other, ho, hou⟩ := hs.has_unmatched r (List.mem_append_left _ hr) hr'
      exact absurd hou (by simp [hu other ho])
  have he := hs.reports_eq
  have hnil : (⟨[], ((empty limit).receiveAll chunks).2.buffer⟩ : Decoding).told = [] := rfl
  rw [hnil, List.append_nil, hall _ hu, hall _ hd] at he
  exact he.symm

/-- However a stream is cut, the same reports come out in the same order as
when it is decoded at once, if it nests no deeper than the limit and no single
result and no rest outgrows the buffer. So all ways to cut it bring the same
responses. -/
theorem reports_receiveAll (limit : Nat) (chunks : List Bytes)
    (hn : nestedTooDeep ∉ (decodeAll chunks.flatten).told)
    (hf : (decodeAll chunks.flatten).Fits limit) :
    reports (((empty limit).receiveAll chunks).1.map Delivery.result)
        = reports (decodeAll chunks.flatten).told ∧
      ∀ others : List Bytes, others.flatten = chunks.flatten →
        responses ((empty limit).receiveAll others).1
          = responses ((empty limit).receiveAll chunks).1 := by
  have hall (others : List Bytes) (ho : others.flatten = chunks.flatten) :
      reports (((empty limit).receiveAll others).1.map Delivery.result)
        = reports (decodeAll chunks.flatten).told := by
    have hk : KeepsLimits ((empty limit).receiveAll others).1 :=
      (waits_empty limit).keepsLimits (ho ▸ hf) (ho ▸ hn)
    have hs := splits_receiveAll hk
    rw [ho] at hs
    have hr : reports (decodeAll chunks.flatten).told
        = reports (((empty limit).receiveAll others).1.map Delivery.result ++ []) := hs.reports_eq
    rw [List.append_nil] at hr
    exact hr.symm
  refine ⟨hall chunks rfl, fun others ho => ?_⟩
  rw [responses_eq_reports, responses_eq_reports, hall others ho, hall chunks rfl]

/-- A stream cut inside a run of brackets, a word, an escape and a number. -/
def cutStream : List Bytes :=
  [")", ")) ; note\n(response-do", "ne \"a\\", "", "n\" 4", "2)\nwhat (resp"].map
    fun piece => Utf8.encode piece.toList

/-- The cuts do not show, although the buffer holds no more than the one
response. -/
theorem reports_receiveAll_cutStream :
    nestedTooDeep ∉ (decodeAll cutStream.flatten).told ∧
      (decodeAll cutStream.flatten).Fits 32 ∧
      reports (((empty 32).receiveAll cutStream).1.map Delivery.result)
        = reports (decodeAll cutStream.flatten).told ∧
      ∀ others : List Bytes, others.flatten = cutStream.flatten →
        responses ((empty 32).receiveAll others).1
          = responses ((empty 32).receiveAll cutStream).1 := by
  have ht : (decodeAll cutStream.flatten).told.all (fun r => !isOverLimit r) = true := by
    decide +kernel
  have hn : nestedTooDeep ∉ (decodeAll cutStream.flatten).told :=
    fun h => absurd (List.all_eq_true.mp ht _ h) (by decide)
  have hf : (decodeAll cutStream.flatten).Fits 32 :=
    ⟨by decide +kernel, by decide +kernel⟩
  exact ⟨hn, hf, reports_receiveAll 32 cutStream hn hf⟩

end Inbox

end ReplLink.Stream
