import ReplLink.Proofs.Stream.Chunks

/-!
# What an inbox keeps between calls

Chunks arrive and the buffer is cleared in any order. After every call an inbox
holds no more than its limit. It is either as good as new, or it ends inside a
datum or comment, and then the scan that it keeps is the scan of exactly the
bytes that it keeps. Whatever error it hands out is about bytes that it has
dropped, and never about bytes that are still to come.
-/

namespace ReplLink.Stream

open ReplLink.Text

namespace EndScan

/-- A byte that decides nothing opens no list beyond the limit. -/
theorem depth_startRegion_le {scan next : EndScan} {b : UInt8}
    (hd : scan.depth ≤ Datum.depthLimit) (h : scan.startRegion b = (.goesOn, next)) :
    next.depth ≤ Datum.depthLimit := by
  by_cases ho : b = Ascii.listOpen
  · subst ho
    have hopen : scan.startRegion Ascii.listOpen
        = (if scan.depth < Datum.depthLimit then .goesOn else .tooDeep,
            { scan.onward .between with depth := scan.depth + 1 }) := rfl
    rw [hopen] at h
    obtain ⟨hf, rfl⟩ := Prod.mk.inj h
    by_cases hroom : scan.depth < Datum.depthLimit
    · exact hroom
    · simp [hroom] at hf
  -- Only an opening bracket makes the depth grow.
  rw [startRegion, if_neg (c := (b == Ascii.listOpen) = true) (by simpa using ho)] at h
  repeat' split at h
  all_goals obtain ⟨-, rfl⟩ := Prod.mk.inj h
  all_goals first | exact hd | exact Nat.le_trans (Nat.sub_le _ _) hd

theorem depth_step_le {scan next : EndScan} {b : UInt8} (hd : scan.depth ≤ Datum.depthLimit)
    (h : scan.step b = (.goesOn, next)) : next.depth ≤ Datum.depthLimit := by
  unfold step at h
  split at h
  case h_5 => exact depth_startRegion_le hd h
  case h_4 =>
    repeat' split at h
    case isFalse.isFalse => exact depth_startRegion_le hd h
    all_goals obtain ⟨-, rfl⟩ := Prod.mk.inj h
    all_goals exact hd
  all_goals repeat' split at h
  all_goals obtain ⟨-, rfl⟩ := Prod.mk.inj h
  all_goals exact hd

/-- A scan that goes on has no more lists open than may be. -/
theorem depth_run_le {scan next : EndScan} {input : Bytes} (hd : scan.depth ≤ Datum.depthLimit)
    (h : scan.run input = (.goesOn, next)) : next.depth ≤ Datum.depthLimit := by
  induction input generalizing scan with
  | nil =>
    obtain ⟨-, rfl⟩ := Prod.mk.inj h
    exact hd
  | cons b rest ih =>
    by_cases hs : (scan.step b).1 = .goesOn
    · have hb : scan.step b = (.goesOn, (scan.step b).2) := Prod.ext hs rfl
      rw [run_cons_of_goesOn hb] at h
      exact ih (depth_step_le hd hb) h
    · rw [run_cons_of_ne hs] at h
      exact absurd (by rw [h]) hs

/-- Past the blanks and the finished comments there is a datum or a comment. -/
theorem started_of_not_isBlankSoFar {scan : EndScan} (h : scan.isBlankSoFar = false) :
    scan.HasStarted ∨ scan.region = .comment := by
  unfold isBlankSoFar at h
  unfold HasStarted
  by_cases hd : scan.depth = 0
  · rw [hd, beq_self_eq_true, Bool.true_and, beq_eq_false_iff_ne] at h
    by_cases hc : scan.region = .comment
    · exact .inr hc
    · exact .inl (.inr ⟨h, hc⟩)
  · exact .inl (.inl hd)

end EndScan

/-- The error that a delivery reports. -/
def Delivery.rejection? : Delivery → Option Response.Rejection
  | .response _ => none
  | .violation why consumed => some (.violation why consumed)

/-- If a delivery reports an error, some bytes are dropped for it. -/
def Delivery.AccountsForBytes (delivery : Delivery) : Prop :=
  ∀ rejection, delivery.rejection? = some rejection →
    ∃ why consumed, rejection = .violation why consumed ∧ 0 < consumed

theorem accountsForBytes_ofResult (result : Result) {consumed : Nat} (h : 0 < consumed) :
    (Delivery.ofResult result consumed).AccountsForBytes := by
  intro rejection hr
  cases result with
  | ok answer => exact absurd hr (by simp [Delivery.ofResult, Delivery.rejection?])
  | error why => exact ⟨why, consumed, (Option.some.inj hr).symm, h⟩

namespace Inbox

/-- What settling leaves is within the limit. -/
theorem size_settle_le {limit : Nat} {buffer : Bytes} {scan : EndScan}
    (h : EndScan.fresh.run buffer = (.goesOn, scan)) :
    (settle ⟨limit, buffer, scan⟩).2.size ≤ limit := by
  by_cases hb : scan.isBlankSoFar = true
  · rw [settle_of_blank h hb]
    exact Nat.zero_le limit
  rw [settle, if_neg hb]
  split
  · exact Nat.zero_le limit
  · next hl => exact Nat.le_of_not_lt hl

/-- So is what a delivery leaves. -/
theorem size_deliver_le (limit : Nat) (buffer : Bytes) :
    (deliver ⟨limit, buffer, .fresh⟩).2.size ≤ limit := by
  induction buffer using rounds_induction with
  | datum buffer value rest h ih => rw [deliver_of_datum h]; exact ih
  | unmatchedClose buffer rest h ih => rw [deliver_of_unmatchedClose h]; exact ih
  | tooDeep buffer h => rw [deliver_of_tooDeep h]; exact Nat.zero_le limit
  | incomplete buffer h =>
    rw [deliver_of_incomplete h]
    exact size_settle_le (run_of_incomplete h)

/-- A verdict is about at least one byte. -/
theorem left_lt_of_verdict {buffer : Bytes} {verdict : Datum.Verdict}
    (h : Datum.readInside [] buffer = verdict) (hv : verdict ≠ .incomplete) :
    verdict.left < buffer.length := by
  have hl := Datum.left_readInside [] buffer
  rw [h] at hl
  exact hl.resolve_left hv

/-- Every error of a delivery is about bytes that are dropped. -/
theorem accountsForBytes_deliver (limit : Nat) (buffer : Bytes) :
    ∀ delivery ∈ (deliver ⟨limit, buffer, .fresh⟩).1, delivery.AccountsForBytes := by
  induction buffer using rounds_induction with
  | datum buffer value rest h ih =>
    have hl := left_lt_of_verdict h (by simp)
    rw [deliver_of_datum h]
    exact List.forall_mem_cons.mpr
      ⟨accountsForBytes_ofResult _ (Nat.sub_pos_of_lt hl), ih⟩
  | unmatchedClose buffer rest h ih =>
    have hl := left_lt_of_verdict h (by simp)
    have hc : (Datum.skipCloses rest).length ≤ rest.length :=
      (List.dropWhile_suffix _).length_le
    rw [deliver_of_unmatchedClose h]
    exact List.forall_mem_cons.mpr
      ⟨accountsForBytes_ofResult _ (Nat.sub_pos_of_lt (Nat.lt_of_le_of_lt hc hl)), ih⟩
  | tooDeep buffer h =>
    have hl := left_lt_of_verdict h (by simp)
    rw [deliver_of_tooDeep h]
    exact List.forall_mem_singleton.mpr (accountsForBytes_ofResult _ hl)
  | incomplete buffer h =>
    rw [deliver_of_incomplete h, settle]
    split
    · exact List.forall_mem_nil _
    split
    · next hl =>
      have hpos : 0 < buffer.length := Nat.zero_lt_of_lt hl
      exact List.forall_mem_singleton.mpr
        (accountsForBytes_ofResult (.error (.oversized limit)) hpos)
    · exact List.forall_mem_nil _

/-- What can be done to an inbox. -/
inductive Call where
  /-- A chunk arrives. -/
  | receive (chunk : Bytes)
  /-- What is buffered is given up. -/
  | clear

/-- One call and what it hands out. -/
def call (inbox : Inbox) : Call → List Delivery × Inbox
  | .receive chunk => inbox.receive chunk
  | .clear => ([], inbox.forget)

/-- Calls one after the other and all that they hand out. -/
def callAll (inbox : Inbox) : List Call → List Delivery × Inbox
  | [] => ([], inbox)
  | first :: rest =>
    ((inbox.call first).1 ++ ((inbox.call first).2.callAll rest).1,
      ((inbox.call first).2.callAll rest).2)

/-- The buffer ends inside a datum or comment, and the scan is at its end. -/
structure IsUnderWay (inbox : Inbox) : Prop where
  /-- Neither a datum nor a fault can be read yet. -/
  incomplete : Datum.read inbox.buffer = .incomplete
  /-- A list is open, or a word, a string or a comment goes on. -/
  started : inbox.scan.HasStarted ∨ inbox.scan.region = .comment
  /-- There is more than blanks and finished comments. -/
  notBlank : inbox.scan.isBlankSoFar = false
  /-- A fresh scan of the whole buffer comes to where the kept one stands. -/
  scanned : EndScan.fresh.run inbox.buffer = (.goesOn, inbox.scan)
  /-- That is behind the last byte. -/
  position : inbox.scan.position = inbox.size
  /-- No more lists are open than may be. -/
  depth : inbox.scan.depth ≤ Datum.depthLimit

/-- What holds of an inbox after every call. -/
structure IsKept (limit : Nat) (inbox : Inbox) : Prop where
  /-- The limit is the one given at the start. -/
  sameLimit : inbox.limit = limit
  /-- No more bytes are kept. -/
  withinLimit : inbox.size ≤ limit
  /-- The inbox is as good as new, or in the middle of something. -/
  state : inbox = empty limit ∨ inbox.IsUnderWay

/-- An inbox that waits with some bytes is in the middle of something. -/
theorem Waits.isUnderWay {inbox : Inbox} (h : inbox.Waits) (hb : inbox.buffer ≠ []) :
    inbox.IsUnderWay where
  incomplete := by rw [Datum.read, h.readInside]
  started := EndScan.started_of_not_isBlankSoFar (h.started.resolve_left hb)
  notBlank := h.started.resolve_left hb
  scanned := h.scanned
  position := (EndScan.position_run h.scanned).trans (Nat.zero_add _)
  depth := EndScan.depth_run_le (Nat.zero_le _) h.scanned

theorem Waits.isKept {limit : Nat} {inbox : Inbox} (h : inbox.Waits) (hl : inbox.limit = limit)
    (hs : inbox.size ≤ limit) : inbox.IsKept limit := by
  refine ⟨hl, hs, ?_⟩
  by_cases hb : inbox.buffer = []
  · exact .inl (hl ▸ h.eq_empty_of_nil hb)
  · exact .inr (h.isUnderWay hb)

theorem isKept_empty (limit : Nat) : (empty limit).IsKept limit :=
  (waits_empty limit).isKept rfl (Nat.zero_le limit)

/-- A kept inbox waits, so that a chunk is delivered from the front of its
buffer. -/
theorem IsKept.waits {limit : Nat} {inbox : Inbox} (h : inbox.IsKept limit) : inbox.Waits := by
  rcases h.state with rfl | hw
  · exact waits_empty limit
  · exact ⟨hw.scanned, .inr hw.notBlank⟩

/-- One call keeps an inbox, and its errors account for bytes. -/
theorem IsKept.call {limit : Nat} {inbox : Inbox} (h : inbox.IsKept limit) (next : Call) :
    (inbox.call next).2.IsKept limit ∧
      ∀ delivery ∈ (inbox.call next).1, delivery.AccountsForBytes := by
  cases next with
  | clear =>
    rw [Inbox.call, forget, h.sameLimit]
    exact ⟨isKept_empty limit, List.forall_mem_nil _⟩
  | receive chunk =>
    rw [Inbox.call, h.waits.receive, h.sameLimit]
    obtain ⟨hw, hl⟩ := waits_deliver limit (inbox.buffer ++ chunk)
    exact ⟨hw.isKept hl (size_deliver_le limit _), accountsForBytes_deliver limit _⟩

/-- So do calls one after the other. -/
theorem IsKept.callAll {limit : Nat} {inbox : Inbox} (h : inbox.IsKept limit)
    (calls : List Call) :
    (inbox.callAll calls).2.IsKept limit ∧
      ∀ delivery ∈ (inbox.callAll calls).1, delivery.AccountsForBytes := by
  induction calls generalizing inbox with
  | nil => exact ⟨h, List.forall_mem_nil _⟩
  | cons first rest ih =>
    obtain ⟨hkept, hfirst⟩ := h.call first
    obtain ⟨hend, hrest⟩ := ih hkept
    exact ⟨hend, List.forall_mem_append.mpr ⟨hfirst, hrest⟩⟩

/-- Whatever chunks an inbox has received and however often it was cleared, it
keeps within its limit and is as good as new or inside a datum or comment, and
it has handed out no error for which it did not drop any bytes. -/
theorem isKept_callAll_empty (limit : Nat) (calls : List Call) :
    ((empty limit).callAll calls).2.IsKept limit ∧
      ∀ delivery ∈ ((empty limit).callAll calls).1, delivery.AccountsForBytes :=
  (isKept_empty limit).callAll calls

end Inbox

end ReplLink.Stream
