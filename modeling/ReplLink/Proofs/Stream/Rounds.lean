import ReplLink.Stream.Inbox

/-!
# A delivery comes to an end

A delivery goes round and round. Each round scans the buffer and either takes one result off
its front, so that another round follows, or finds that nothing more is complete. Nesting
beyond the limit empties the buffer, and one more round finds it empty.

`round` is one round on its own, and `Rounds` is a row of them with the inbox before each. A
round that is not the last one takes a byte at least, so the row ends, whatever the inbox
holds. What the rounds hand out and what they leave is what the delivery does, and all of it
comes out of the bytes that were there.
-/

namespace ReplLink.Stream

open ReplLink.Text

/-- The number of bytes that were dropped for a violation. -/
def Delivery.dropped : Delivery → Nat
  | .response _ => 0
  | .violation _ consumed => consumed

/-- The number of bytes that were dropped for all violations among these results. -/
def droppedBy : List Delivery → Nat
  | [] => 0
  | delivery :: rest => delivery.dropped + droppedBy rest

theorem droppedBy_append (deliveries later : List Delivery) :
    droppedBy (deliveries ++ later) = droppedBy deliveries + droppedBy later := by
  induction deliveries with
  | nil => exact (Nat.zero_add _).symm
  | cons delivery rest ih => rw [List.cons_append, droppedBy, droppedBy, ih, Nat.add_assoc]

/-- What a round of a delivery comes to. -/
inductive Round where
  /-- A result is handed out, and another round follows. -/
  | goesOn (delivery : Delivery) (inbox : Inbox)
  /-- It is the last round. -/
  | stops (deliveries : List Delivery) (inbox : Inbox)

/-- What a round hands out. -/
def Round.deliveries : Round → List Delivery
  | goesOn delivery _ => [delivery]
  | stops deliveries _ => deliveries

/-- The inbox behind a round. -/
def Round.inbox : Round → Inbox
  | goesOn _ inbox => inbox
  | stops _ inbox => inbox

namespace Inbox

/-- One round: the scan is taken up, and what it finds is dealt with. -/
def round (inbox : Inbox) : Round :=
  match inbox.scanOn with
  | (.goesOn, scan) => .stops (settle { inbox with scan }).1 (settle { inbox with scan }).2
  | (.tooDeep, _) =>
    .goesOn (.violation (.unreadable .tooDeep) inbox.buffer.length) inbox.forget
  | (.ended, scan) =>
    match Response.decode inbox.buffer with
    | .ok (response, consumed) => .goesOn (.response response) (inbox.dropFront consumed)
    | .error (.violation violation consumed) =>
      .goesOn (.violation violation consumed) (inbox.dropFront consumed)
    | .error .incomplete => .stops [] { inbox with scan }

/-- A row of rounds: the inbox before each of them, all that they hand out, and the inbox behind
the last one. -/
inductive Rounds : List Inbox → List Delivery → Inbox → Prop
  /-- The last round. -/
  | last {inbox after : Inbox} {deliveries : List Delivery}
    (h : inbox.round = .stops deliveries after) : Rounds [inbox] deliveries after
  /-- A round and those that follow it. -/
  | next {inbox following after : Inbox} {later : List Inbox} {delivery : Delivery}
    {deliveries : List Delivery} (h : inbox.round = .goesOn delivery following)
    (hr : Rounds (following :: later) deliveries after) :
    Rounds (inbox :: following :: later) (delivery :: deliveries) after

/-- The inbox with a chunk behind what it holds. -/
def extended (inbox : Inbox) (chunk : Bytes) : Inbox :=
  { inbox with buffer := inbox.buffer ++ chunk }

/-- All that is handed out and all that is left comes out of the bytes that were there. -/
structure Accounts (before : Bytes) (deliveries : List Delivery) (after : Bytes) : Prop where
  /-- Bytes are taken off the front only. -/
  rest : after <:+ before
  /-- Each result has taken a byte at least. -/
  results : deliveries.length + after.length ≤ before.length
  /-- Each violation has taken the bytes that it tells of. -/
  dropped : droppedBy deliveries + after.length ≤ before.length

section Bytes

variable {before now after : Bytes} {deliveries later : List Delivery}

theorem Accounts.trans (h : Accounts before deliveries now) (hl : Accounts now later after) :
    Accounts before (deliveries ++ later) after where
  rest := hl.rest.trans h.rest
  results := by
    have hfirst := h.results
    have hsecond := hl.results
    rw [List.length_append]
    omega
  dropped := by
    have hfirst := h.dropped
    have hsecond := hl.dropped
    rw [droppedBy_append]
    omega

theorem Accounts.of_suffix (h : after <:+ before) : Accounts before [] after where
  rest := h
  results := by simpa using h.length_le
  dropped := by simpa [droppedBy] using h.length_le

end Bytes

section Steps

variable {inbox after : Inbox} {delivery : Delivery} {deliveries : List Delivery}

/-- A result that takes so many bytes, and the blanks behind them, accounts for them. -/
theorem accounts_dropFront {consumed : Nat} (hpos : 0 < consumed)
    (hle : consumed ≤ inbox.buffer.length) (hd : delivery.dropped ≤ consumed) :
    Accounts inbox.buffer [delivery] (inbox.dropFront consumed).buffer := by
  have hblanks : (inbox.dropFront consumed).buffer <:+ inbox.buffer.drop consumed :=
    List.dropWhile_suffix _
  have hshort := hblanks.length_le
  rw [List.length_drop] at hshort
  refine ⟨hblanks.trans (List.drop_suffix consumed inbox.buffer), ?_, ?_⟩
  · rw [List.length_singleton]
    omega
  · rw [droppedBy, droppedBy]
    omega

/-- So does a violation that costs all that is buffered. -/
theorem accounts_forget (hpos : 0 < inbox.buffer.length) (why : Response.Violation) :
    Accounts inbox.buffer [.violation why inbox.buffer.length] inbox.forget.buffer where
  rest := List.nil_suffix
  results := hpos
  dropped := Nat.le_of_eq rfl

theorem accounts_settle (inbox : Inbox) :
    Accounts inbox.buffer inbox.settle.1 inbox.settle.2.buffer := by
  unfold settle
  split
  · exact .of_suffix ((List.dropWhile_suffix _).trans (List.drop_suffix _ inbox.buffer))
  · split
    · next hl => exact accounts_forget (Nat.zero_lt_of_lt hl) _
    · exact .of_suffix List.suffix_rfl

/-- Nothing is found where there are no bytes. -/
theorem length_pos_of_found (h : inbox.scanOn.1 ≠ .goesOn) : 0 < inbox.buffer.length := by
  refine List.length_pos_iff.mpr fun hnil => h ?_
  rw [scanOn, hnil, List.drop_nil]
  rfl

/-- A round accounts for what it hands out. -/
theorem accounts_round (inbox : Inbox) :
    Accounts inbox.buffer inbox.round.deliveries inbox.round.inbox.buffer := by
  unfold round
  split
  · next scan _ => exact accounts_settle { inbox with scan }
  · next hs =>
    have hfound : inbox.scanOn.1 ≠ .goesOn := by simp [hs]
    exact accounts_forget (length_pos_of_found hfound) _
  · split
    · next hd =>
      obtain ⟨hpos, hle⟩ := Response.consumed_of_decode hd
      exact accounts_dropFront hpos hle (Nat.zero_le _)
    · next hd =>
      obtain ⟨hpos, hle⟩ := Response.consumed_of_decode_violation hd
      exact accounts_dropFront hpos hle (Nat.le_refl _)
    · exact .of_suffix List.suffix_rfl

/-- Every round but the last one takes a byte at least. -/
theorem size_lt_of_round (h : inbox.round = .goesOn delivery after) : after.size < inbox.size := by
  have hround := (accounts_round inbox).results
  rw [h] at hround
  exact Nat.lt_of_lt_of_le (Nat.lt_add_of_pos_left Nat.one_pos) hround

/-- A delivery that goes on hands out one result in front of those of the next rounds. -/
theorem deliver_of_goesOn (h : inbox.round = .goesOn delivery after) :
    inbox.deliver = (delivery :: after.deliver.1, after.deliver.2) := by
  unfold round at h
  split at h
  · exact absurd h (by simp)
  · next hs =>
    obtain ⟨rfl, rfl⟩ := Round.goesOn.inj h
    -- The next round finds no bytes.
    have hempty : inbox.forget.deliver = ([], inbox.forget) := by
      rw [deliver.eq_def]
      rfl
    rw [hempty, deliver.eq_def, hs]
  · next hs =>
    rw [deliver.eq_def, hs]
    dsimp only
    split at h
    · obtain ⟨rfl, rfl⟩ := Round.goesOn.inj h
      split <;> simp_all
    · obtain ⟨rfl, rfl⟩ := Round.goesOn.inj h
      split <;> simp_all
    · exact absurd h (by simp)

/-- A delivery that stops hands out what its last round hands out. -/
theorem deliver_of_stops (h : inbox.round = .stops deliveries after) :
    inbox.deliver = (deliveries, after) := by
  unfold round at h
  split at h
  · next hs =>
    obtain ⟨rfl, rfl⟩ := Round.stops.inj h
    rw [deliver.eq_def, hs]
  · exact absurd h (by simp)
  · next hs =>
    rw [deliver.eq_def, hs]
    dsimp only
    split at h
    · exact absurd h (by simp)
    · exact absurd h (by simp)
    · obtain ⟨rfl, rfl⟩ := Round.stops.inj h
      split <;> simp_all

end Steps

section Rows

variable {inbox after : Inbox} {states : List Inbox} {deliveries : List Delivery}

/-- There is a row of rounds that does what the delivery does. -/
theorem exists_rounds (inbox : Inbox) :
    ∃ later, Rounds (inbox :: later) inbox.deliver.1 inbox.deliver.2 := by
  induction hn : inbox.size using Nat.strongRecOn generalizing inbox with
  | ind n ih =>
    cases hr : inbox.round with
    | stops deliveries after =>
      rw [deliver_of_stops hr]
      exact ⟨[], .last hr⟩
    | goesOn delivery following =>
      have hlt := size_lt_of_round hr
      obtain ⟨later, hlater⟩ := ih following.size (hn ▸ hlt) following rfl
      rw [deliver_of_goesOn hr]
      exact ⟨following :: later, .next hr hlater⟩

/-- The bytes get fewer from round to round. -/
theorem Rounds.pairwise_size (h : Rounds states deliveries after) :
    (states.map size).Pairwise (· > ·) := by
  induction h with
  | last _ => exact List.pairwise_singleton _ _
  | next h _ ih =>
    refine List.pairwise_cons.mpr ⟨fun fewer hm => ?_, ih⟩
    rcases List.mem_cons.mp hm with rfl | hm
    · exact size_lt_of_round h
    · exact Nat.lt_trans ((List.pairwise_cons.mp ih).1 fewer hm) (size_lt_of_round h)

/-- A row of rounds accounts for all that it hands out. -/
theorem Rounds.accounts (h : Rounds (inbox :: states) deliveries after) :
    Accounts inbox.buffer deliveries after.buffer := by
  generalize hs : inbox :: states = all at h
  induction h generalizing inbox states with
  | last h =>
    obtain ⟨rfl, -⟩ := List.cons.inj hs
    have hround := accounts_round inbox
    rwa [h] at hround
  | next h _ ih =>
    obtain ⟨rfl, -⟩ := List.cons.inj hs
    have hround := accounts_round inbox
    rw [h] at hround
    exact hround.trans (ih rfl)

/-- Whatever an inbox holds and whatever chunk arrives, the rounds of the delivery come to an
end, since the bytes get fewer with each but the last. There are no more results than bytes,
the inbox is left with the end of what was there, and what it is left with and what was dropped
for violations is no more than there was. -/
theorem receive_accounts (inbox : Inbox) (chunk : Bytes) :
    (∃ later, Rounds (inbox.extended chunk :: later) (inbox.receive chunk).1
          (inbox.receive chunk).2 ∧
        ((inbox.extended chunk :: later).map size).Pairwise (· > ·)) ∧
      (inbox.receive chunk).1.length ≤ inbox.size + chunk.length ∧
      (inbox.receive chunk).2.buffer <:+ inbox.buffer ++ chunk ∧
      droppedBy (inbox.receive chunk).1 + (inbox.receive chunk).2.size
        ≤ inbox.size + chunk.length := by
  obtain ⟨later, hrounds⟩ := exists_rounds (inbox.extended chunk)
  obtain ⟨hrest, hresults, hdropped⟩ := hrounds.accounts
  have hlength : (inbox.extended chunk).buffer.length = inbox.size + chunk.length :=
    List.length_append
  rw [hlength] at hresults hdropped
  exact ⟨⟨later, hrounds, hrounds.pairwise_size⟩, Nat.le_of_add_right_le hresults, hrest,
    hdropped⟩

end Rows

end Inbox

end ReplLink.Stream
