import ReplLink.Proofs.Datum.Growth
import ReplLink.Stream.EndScan

/-!
# The scan for the end of a datum and the reader

The scan looks at one byte at a time and keeps a depth where the reader keeps
the open lists. Both come to the same verdict on every buffer: a fresh scan
finds an end exactly where the reader finds a datum or an unmatched bracket,
is too deep exactly where the reader is, and goes on exactly over an input
that is incomplete. A scan that is taken up again is the scan of all bytes.
-/

namespace ReplLink.Stream

open ReplLink.Text

namespace EndScan

/-- A byte that decides nothing hands the scan on. -/
theorem run_cons_of_goesOn {scan next : EndScan} {b : UInt8}
    (h : scan.step b = (.goesOn, next)) (rest : Bytes) : scan.run (b :: rest) = next.run rest := by
  rw [run, h]

/-- A byte that decides ends the scan. -/
theorem run_cons_of_ne {scan : EndScan} {b : UInt8} (h : (scan.step b).1 ≠ .goesOn)
    (rest : Bytes) : scan.run (b :: rest) = scan.step b := by
  rw [run]
  split
  · next hs => exact absurd (by rw [hs]) h
  · rfl

/-- A scan that goes on over one input is taken up again on the next one. -/
theorem run_append {scan next : EndScan} {input : Bytes} (h : scan.run input = (.goesOn, next))
    (more : Bytes) : scan.run (input ++ more) = next.run more := by
  induction input generalizing scan with
  | nil =>
    obtain ⟨-, rfl⟩ := Prod.mk.inj h
    rfl
  | cons b rest ih =>
    by_cases hs : (scan.step b).1 = .goesOn
    · have hb : scan.step b = (.goesOn, (scan.step b).2) := Prod.ext hs rfl
      rw [run_cons_of_goesOn hb] at h
      rw [List.cons_append, run_cons_of_goesOn hb]
      exact ih h
    · rw [run_cons_of_ne hs] at h
      exact absurd (by rw [h]) hs

/-- Every byte moves the scan one byte on, whether or not it decides. -/
theorem position_snd_step (scan : EndScan) (b : UInt8) :
    (scan.step b).2.position = scan.position + 1 := by
  unfold step startRegion onward
  repeat' split
  all_goals rfl

/-- A byte that decides nothing moves the scan one byte on. -/
theorem position_step {scan next : EndScan} {b : UInt8} (h : scan.step b = (.goesOn, next)) :
    next.position = scan.position + 1 := by
  rw [← scan.position_snd_step b, h]

/-- A scan that goes on has looked at every byte. -/
theorem position_run {scan next : EndScan} {input : Bytes} (h : scan.run input = (.goesOn, next)) :
    next.position = scan.position + input.length := by
  induction input generalizing scan with
  | nil =>
    obtain ⟨-, rfl⟩ := Prod.mk.inj h
    rfl
  | cons b rest ih =>
    by_cases hs : (scan.step b).1 = .goesOn
    · have hb : scan.step b = (.goesOn, (scan.step b).2) := Prod.ext hs rfl
      rw [run_cons_of_goesOn hb] at h
      rw [ih h, position_step hb, List.length_cons]
      omega
    · rw [run_cons_of_ne hs] at h
      exact absurd (by rw [h]) hs

/-- What a scan finds in an input. -/
def found (scan : EndScan) (input : Bytes) : Found := (scan.run input).1

/-- Where a scan stands in its buffer has no part in a step. -/
theorem step_congr {scan other : EndScan} (hd : scan.depth = other.depth)
    (hr : scan.region = other.region) (b : UInt8) :
    (scan.step b).1 = (other.step b).1 ∧ (scan.step b).2.depth = (other.step b).2.depth ∧
      (scan.step b).2.region = (other.step b).2.region := by
  obtain ⟨p, depth, region⟩ := scan
  obtain ⟨q, _, _⟩ := other
  dsimp only at hd hr
  subst hd hr
  unfold step startRegion onward
  dsimp only
  repeat' split
  all_goals exact ⟨rfl, rfl, rfl⟩

/-- Nor has it in what the scan finds. -/
theorem found_congr {scan other : EndScan} (hd : scan.depth = other.depth)
    (hr : scan.region = other.region) (input : Bytes) :
    scan.found input = other.found input := by
  induction input generalizing scan other with
  | nil => rfl
  | cons b rest ih =>
    obtain ⟨hf, hd', hr'⟩ := step_congr hd hr b
    unfold found at ih ⊢
    by_cases hs : (scan.step b).1 = .goesOn
    · rw [run_cons_of_goesOn (Prod.ext hs rfl), run_cons_of_goesOn (Prod.ext (hf ▸ hs) rfl)]
      exact ih hd' hr'
    · rw [run_cons_of_ne hs, run_cons_of_ne (hf ▸ hs), hf]

/-- What is found behind a byte that decides nothing is found by the next scan. -/
theorem found_cons_of_goesOn {scan next : EndScan} {b : UInt8}
    (h : scan.step b = (.goesOn, next)) (rest : Bytes) :
    scan.found (b :: rest) = next.found rest := by
  rw [found, run_cons_of_goesOn h, found]

/-- A scan never goes back. -/
theorem position_le_run (scan : EndScan) (input : Bytes) :
    scan.position ≤ (scan.run input).2.position := by
  induction input generalizing scan with
  | nil => exact Nat.le_refl _
  | cons b rest ih =>
    have hb := scan.position_snd_step b
    by_cases hs : (scan.step b).1 = .goesOn
    · have hstep : scan.step b = (.goesOn, (scan.step b).2) := Prod.ext hs rfl
      have hrest := ih (scan.step b).2
      rw [run_cons_of_goesOn hstep]
      omega
    · rw [run_cons_of_ne hs]
      omega

/-- A scan goes on over the bytes in front of the one that decides, and over no more. -/
theorem found_take_iff (scan : EndScan) (input : Bytes) (count : Nat) :
    scan.found (input.take count) = .goesOn ↔
      scan.found input = .goesOn ∨ scan.position + count < (scan.run input).2.position := by
  induction input generalizing scan count with
  | nil =>
    rw [List.take_nil]
    exact ⟨.inl, fun _ => rfl⟩
  | cons b rest ih =>
    have hb := scan.position_snd_step b
    cases count with
    | zero =>
      have hfirst : scan.position < (scan.run (b :: rest)).2.position := by
        by_cases hs : (scan.step b).1 = .goesOn
        · have hstep : scan.step b = (.goesOn, (scan.step b).2) := Prod.ext hs rfl
          have hlater := position_le_run (scan.step b).2 rest
          rw [run_cons_of_goesOn hstep]
          omega
        · rw [run_cons_of_ne hs]
          omega
      exact ⟨fun _ => .inr hfirst, fun _ => rfl⟩
    | succ count =>
      rw [List.take_succ_cons]
      by_cases hs : (scan.step b).1 = .goesOn
      · have hstep : scan.step b = (.goesOn, (scan.step b).2) := Prod.ext hs rfl
        rw [found_cons_of_goesOn hstep, found_cons_of_goesOn hstep, run_cons_of_goesOn hstep, ih,
          hb, Nat.add_right_comm, Nat.add_assoc]
      · rw [found, found, run_cons_of_ne hs, run_cons_of_ne hs]
        exact ⟨fun h => absurd h hs, fun h => h.elim id fun hlt => by omega⟩

/-- The region between data, inside a comment or outside. -/
def blankRegion (inComment : Bool) : Region := if inComment then .comment else .between

/-- A comment lasts until the end of its line. -/
theorem step_comment (p depth : Nat) (b : UInt8) :
    step ⟨p, depth, .comment⟩ b
      = (.goesOn, ⟨p + 1, depth, blankRegion (b != Ascii.lineFeed)⟩) := by
  by_cases hb : b = Ascii.lineFeed <;> simp [step, onward, blankRegion, hb]

/-- A semicolon between data starts a comment. -/
theorem step_semicolon (p depth : Nat) :
    step ⟨p, depth, .between⟩ Ascii.semicolon = (.goesOn, ⟨p + 1, depth, .comment⟩) := rfl

/-- A quote between data starts a string. -/
theorem step_quote (p depth : Nat) :
    step ⟨p, depth, .between⟩ Ascii.quote = (.goesOn, ⟨p + 1, depth, .quoted⟩) := rfl

/-- A blank is none of the bytes that open or close anything. -/
theorem step_blank {b : UInt8} (h : Ascii.isBlank b = true) (p depth : Nat) :
    step ⟨p, depth, .between⟩ b = (.goesOn, ⟨p + 1, depth, .between⟩) := by
  simp only [Ascii.isBlank, Bool.or_eq_true, beq_iff_eq] at h
  rcases h with (((rfl | rfl) | rfl) | rfl) | rfl <;> rfl

/-- A list that opens is too deep if as many are open as there may be. -/
theorem step_listOpen (p depth : Nat) :
    step ⟨p, depth, .between⟩ Ascii.listOpen
      = (if depth < Datum.depthLimit then .goesOn else .tooDeep,
          ⟨p + 1, depth + 1, .between⟩) := rfl

/-- The last list that closes ends the datum, as does one that was never opened. -/
theorem step_listClose (p depth : Nat) :
    step ⟨p, depth, .between⟩ Ascii.listClose
      = if depth ≤ 1 then (.ended, ⟨p + 1, depth, .between⟩)
        else (.goesOn, ⟨p + 1, depth - 1, .between⟩) := rfl

/-- A byte with no meaning of its own starts a word. -/
theorem step_wordStart {b : UInt8} (h : Ascii.isDelimiter b = false) (p depth : Nat) :
    step ⟨p, depth, .between⟩ b = (.goesOn, ⟨p + 1, depth, .word⟩) := by
  simp only [Ascii.isDelimiter, Bool.or_eq_false_iff, beq_eq_false_iff_ne] at h
  obtain ⟨⟨⟨⟨hb, ho⟩, hc⟩, hq⟩, hs⟩ := h
  simp [step, startRegion, onward, hb, ho, hc, hq, hs]

/-- A word goes on up to a delimiter. -/
theorem step_word {b : UInt8} (h : Ascii.isDelimiter b = false) (p depth : Nat) :
    step ⟨p, depth, .word⟩ b = (.goesOn, ⟨p + 1, depth, .word⟩) := by
  simp [step, onward, h]

/-- A delimiter ends a word and means inside a list what it means between
data. -/
theorem step_wordEnd {b : UInt8} (h : Ascii.isDelimiter b = true) (p depth : Nat) :
    step ⟨p, depth, .word⟩ b
      = if depth = 0 then (.ended, ⟨p + 1, depth, .word⟩) else step ⟨p, depth, .between⟩ b := by
  simp [step, startRegion, onward, h]

/-- Behind a backslash every byte belongs to the string. -/
theorem step_escaped (p depth : Nat) (b : UInt8) :
    step ⟨p, depth, .escaped⟩ b = (.goesOn, ⟨p + 1, depth, .quoted⟩) := rfl

/-- A backslash in a string escapes the byte behind it. -/
theorem step_backslash (p depth : Nat) :
    step ⟨p, depth, .quoted⟩ Ascii.backslash = (.goesOn, ⟨p + 1, depth, .escaped⟩) := rfl

/-- The closing quote ends the string, and the datum if it is in no list. -/
theorem step_closingQuote (p depth : Nat) :
    step ⟨p, depth, .quoted⟩ Ascii.quote
      = (if depth = 0 then .ended else .goesOn, ⟨p + 1, depth, .between⟩) := rfl

/-- Every other byte belongs to the string. -/
theorem step_quoted {b : UInt8} (hq : b ≠ Ascii.quote) (hb : b ≠ Ascii.backslash)
    (p depth : Nat) : step ⟨p, depth, .quoted⟩ b = (.goesOn, ⟨p + 1, depth, .quoted⟩) := by
  simp [step, onward, hq, hb]

/-- A scan between data, inside so many lists. -/
def inside (depth : Nat) : EndScan := ⟨0, depth, .between⟩

/-- What is found depends on the open lists alone where the scan is between data. -/
theorem found_between (p depth : Nat) (input : Bytes) :
    found ⟨p, depth, .between⟩ input = (inside depth).found input :=
  @found_congr ⟨p, depth, .between⟩ (inside depth) rfl rfl input

/-- Blanks and comments are passed over. -/
theorem found_skipBlank (inComment : Bool) (p depth : Nat) (input : Bytes) :
    found ⟨p, depth, blankRegion inComment⟩ input
      = (inside depth).found (Datum.skipBlank inComment input) := by
  fun_induction Datum.skipBlank inComment input generalizing p with
  | case1 => rfl
  | case2 b rest ih =>
    rw [blankRegion, if_pos rfl, found_cons_of_goesOn (step_comment p depth b), ih]
  | case3 b rest hs ih =>
    rw [eq_of_beq hs, blankRegion, if_neg (by simp),
      found_cons_of_goesOn (step_semicolon p depth)]
    exact ih (p + 1)
  | case4 b rest hs hb ih =>
    rw [blankRegion, if_neg (by simp), found_cons_of_goesOn (step_blank hb p depth)]
    exact ih (p + 1)
  | case5 b rest hs hb => exact found_between p depth _

/-- A string is passed over up to its closing quote. -/
theorem found_quoted (p depth : Nat) (read input : Bytes) :
    found ⟨p, depth, .quoted⟩ input
      = match Datum.stringBody read input with
        | none => .goesOn
        | some (_, rest) => if depth = 0 then .ended else (inside depth).found rest := by
  fun_induction Datum.stringBody read input generalizing p with
  | case1 => rfl
  | case2 read b tail hq =>
    rw [eq_of_beq hq]
    by_cases hd : depth = 0
    · subst hd
      rfl
    · have hs := step_closingQuote p depth
      rw [if_neg hd] at hs
      rw [found_cons_of_goesOn hs, found_between]
      exact (if_neg hd).symm
  | case3 read b hq hb =>
    rw [eq_of_beq hb]
    rfl
  | case4 read b hq hb escaped tail ih =>
    rw [eq_of_beq hb, found_cons_of_goesOn (step_backslash p depth),
      found_cons_of_goesOn (step_escaped _ depth escaped), ih]
  | case5 read b tail hq hb ih =>
    rw [found_cons_of_goesOn (step_quoted (by simpa using hq) (by simpa using hb) p depth), ih]

/-- A word is passed over up to the delimiter behind it. -/
theorem found_word (p depth : Nat) (input : Bytes) :
    found ⟨p, depth, .word⟩ input
      = if input.dropWhile (fun b => !Ascii.isDelimiter b) = [] then .goesOn
        else if depth = 0 then .ended
        else (inside depth).found (input.dropWhile fun b => !Ascii.isDelimiter b) := by
  induction input generalizing p with
  | nil => rfl
  | cons b rest ih =>
    cases hb : Ascii.isDelimiter b with
    | false =>
      rw [found_cons_of_goesOn (step_word hb p depth), ih,
        List.dropWhile_cons_of_pos (by simp [hb])]
    | true =>
      have hs := step_wordEnd hb p depth
      rw [List.dropWhile_cons_of_neg (by simp [hb]), if_neg (List.cons_ne_nil b rest)]
      by_cases hd : depth = 0
      · rw [if_pos hd] at hs ⊢
        rw [found, run_cons_of_ne (by rw [hs]; simp), hs]
      · rw [if_neg hd] at hs ⊢
        rw [← found_between p depth, found, found, run, run, hs]

/-- What a scan finds from the first piece on. The depth stands for the lists
that the reader has open. -/
theorem found_piece {depth : Nat} {input : Bytes}
    (hhead : ∀ b ∈ input.head?, Ascii.isBlank b = false ∧ b ≠ Ascii.semicolon) :
    (inside depth).found input
      = match Datum.piece? input with
        | none => .goesOn
        | some (.listOpen, rest) =>
          if depth < Datum.depthLimit then (inside (depth + 1)).found rest else .tooDeep
        | some (.listClose, rest) =>
          if depth ≤ 1 then .ended else (inside (depth - 1)).found rest
        | some (.value _, rest) =>
          if depth = 0 then .ended else (inside depth).found rest := by
  cases input with
  | nil => rfl
  | cons b tail =>
    obtain ⟨hblank, hs⟩ := hhead b rfl
    by_cases ho : b = Ascii.listOpen
    · subst ho
      have hstep := step_listOpen 0 depth
      rw [Datum.piece?_listOpen]
      dsimp only
      by_cases hd : depth < Datum.depthLimit
      · rw [if_pos hd] at hstep ⊢
        rw [inside, found_cons_of_goesOn hstep, found_between]
      · rw [if_neg hd] at hstep ⊢
        rw [inside, found, run_cons_of_ne (by rw [hstep]; simp), hstep]
    by_cases hc : b = Ascii.listClose
    · subst hc
      have hstep := step_listClose 0 depth
      rw [Datum.piece?_listClose]
      dsimp only
      by_cases hd : depth ≤ 1
      · rw [if_pos hd] at hstep ⊢
        rw [inside, found, run_cons_of_ne (by rw [hstep]; simp), hstep]
      · rw [if_neg hd] at hstep ⊢
        rw [inside, found_cons_of_goesOn hstep, found_between]
    by_cases hq : b = Ascii.quote
    · subst hq
      rw [inside, found_cons_of_goesOn (step_quote 0 depth), found_quoted _ _ [],
        Datum.piece?_quote]
      cases Datum.stringBody [] tail <;> rfl
    · have hdelim : Ascii.isDelimiter b = false := by
        simp [Ascii.isDelimiter, hblank, ho, hc, hq, hs]
      rw [inside, found_cons_of_goesOn (step_wordStart hdelim 0 depth), found_word,
        Datum.piece?_word ho hc hq]
      by_cases hd : tail.dropWhile (fun b => !Ascii.isDelimiter b) = []
      · rw [if_pos hd, if_pos hd]
      · rw [if_neg hd, if_neg hd]
        rfl

end EndScan

/-- What a scan has to find where the reader comes to a verdict. -/
def Found.ofVerdict : Datum.Verdict → Found
  | .datum .. => .ended
  | .unmatchedClose _ => .ended
  | .tooDeep => .tooDeep
  | .incomplete => .goesOn

namespace EndScan

/-- Inside any lists, the scan finds what the reader makes of the input. -/
theorem found_inside (opened : List (List Datum)) (input : Bytes) :
    (inside opened.length).found input = Found.ofVerdict (Datum.readInside opened input) := by
  have hpiece (depth : Nat) (input : Bytes) :=
    (found_skipBlank false 0 depth input).trans
      (found_piece (Datum.head_skipBlank false input))
  fun_induction Datum.readInside opened input with
  | case1 opened input hp =>
    have h := hpiece opened.length input
    rw [hp] at h
    exact h
  | case2 opened input rest hp hd ih =>
    have h := hpiece opened.length input
    rw [hp] at h
    exact (h.trans (if_pos hd)).trans ih
  | case3 opened input rest hp hd =>
    have h := hpiece opened.length input
    rw [hp] at h
    exact h.trans (if_neg hd)
  | case4 input rest hp =>
    have h := hpiece 0 input
    rw [hp] at h
    exact h.trans (if_pos (Nat.zero_le 1))
  | case5 input rest hp items =>
    have h := hpiece 1 input
    rw [hp] at h
    exact h.trans (if_pos (Nat.le_refl 1))
  | case6 input rest hp items outer others ih =>
    have h := hpiece (others.length + 1 + 1) input
    rw [hp] at h
    exact (h.trans (if_neg (by omega))).trans ih
  | case7 input value rest hp =>
    have h := hpiece 0 input
    rw [hp] at h
    exact h.trans (if_pos rfl)
  | case8 input value rest hp items others ih =>
    have h := hpiece (others.length + 1) input
    rw [hp] at h
    exact (h.trans (if_neg (by omega))).trans ih

/-- A fresh scan finds what the reader makes of the whole buffer. -/
theorem found_fresh (input : Bytes) :
    fresh.found input = Found.ofVerdict (Datum.readInside [] input) := found_inside [] input

/-- A verdict lets the scan go on just where the reader asks for more. -/
theorem ofVerdict_eq_goesOn_iff (buffer : Bytes) :
    Found.ofVerdict (Datum.readInside [] buffer) = .goesOn ↔ Datum.read buffer = .incomplete := by
  rw [Datum.read]
  cases Datum.readInside [] buffer <;> simp [Found.ofVerdict]

/-- The scan and the reader come to the same verdict on every buffer. The scan ends exactly
where the reader has a datum or an unmatched bracket, is too deep exactly where the reader is,
and goes on exactly over what is incomplete. It stops behind the first byte that gives the
reader a verdict. -/
theorem run_fresh_iff_read (buffer : Bytes) :
    ((fresh.run buffer).1 = .ended ↔
        (∃ value consumed, Datum.read buffer = .datum value consumed) ∨
          ∃ offset consumed, Datum.read buffer = .invalid (.unmatchedClose offset) consumed) ∧
      ((fresh.run buffer).1 = .tooDeep ↔
        ∃ consumed, Datum.read buffer = .invalid .tooDeep consumed) ∧
      ((fresh.run buffer).1 = .goesOn ↔ Datum.read buffer = .incomplete) ∧
      ∀ count, Datum.read (buffer.take count) = .incomplete ↔
        (fresh.run buffer).1 = .goesOn ∨ count < (fresh.run buffer).2.position := by
  have hfound : (fresh.run buffer).1 = Found.ofVerdict (Datum.readInside [] buffer) :=
    found_fresh buffer
  refine ⟨?_, ?_, ?_, fun count => ?_⟩
  · rw [hfound, Datum.read]
    cases Datum.readInside [] buffer <;> simp [Found.ofVerdict]
  · rw [hfound, Datum.read]
    cases Datum.readInside [] buffer <;> simp [Found.ofVerdict]
  · rw [hfound]
    exact ofVerdict_eq_goesOn_iff buffer
  · -- Of the first bytes the scan finds what the reader makes of them alone.
    have htake := found_take_iff fresh buffer count
    have hcount : fresh.position + count = count := Nat.zero_add count
    rw [found_fresh, hcount] at htake
    exact (ofVerdict_eq_goesOn_iff _).symm.trans htake

/-- A datum has started: a list is open, or a word or string goes on. -/
def HasStarted (scan : EndScan) : Prop :=
  scan.depth ≠ 0 ∨ (scan.region ≠ .between ∧ scan.region ≠ .comment)

/-- Inside a list, a byte that decides nothing leaves a list open. -/
theorem depth_startRegion_ne_zero {p depth : Nat} {region : Region} {b : UInt8}
    {next : EndScan} (hd : depth ≠ 0)
    (h : startRegion ⟨p, depth, region⟩ b = (.goesOn, next)) : next.depth ≠ 0 := by
  unfold startRegion at h
  dsimp only at h
  by_cases hc : b = Ascii.listClose
  · subst hc
    by_cases hl : depth ≤ 1
    · rw [if_pos hl] at h
      simp [Ascii.listClose, Ascii.semicolon, Ascii.quote, Ascii.listOpen] at h
    · rw [if_neg hl] at h
      obtain ⟨-, rfl⟩ := Prod.mk.inj h
      change depth - 1 ≠ 0
      omega
  -- No other byte closes a list.
  rw [if_neg (c := (b == Ascii.listClose) = true) (by simpa using hc)] at h
  repeat' split at h
  all_goals obtain ⟨-, rfl⟩ := Prod.mk.inj h
  all_goals simp [onward, hd]

/-- A datum that has started goes on until it ends. -/
theorem HasStarted.step {scan next : EndScan} {b : UInt8} (hs : scan.HasStarted)
    (h : scan.step b = (.goesOn, next)) : next.HasStarted := by
  obtain ⟨p, depth, region⟩ := scan
  cases region with
  | between =>
    have hd : depth ≠ 0 := hs.resolve_right fun hr => hr.1 rfl
    exact .inl (depth_startRegion_ne_zero hd h)
  | comment =>
    have hd : depth ≠ 0 := hs.resolve_right fun hr => hr.2 rfl
    obtain ⟨-, rfl⟩ := Prod.mk.inj h
    exact .inl hd
  | escaped =>
    obtain ⟨-, rfl⟩ := Prod.mk.inj h
    exact .inr ⟨by simp [onward], by simp [onward]⟩
  | quoted =>
    by_cases hb : b = Ascii.backslash
    · rw [hb, step_backslash] at h
      obtain ⟨-, rfl⟩ := Prod.mk.inj h
      exact .inr ⟨by simp, by simp⟩
    by_cases hq : b = Ascii.quote
    · rw [hq, step_closingQuote] at h
      obtain ⟨hf, rfl⟩ := Prod.mk.inj h
      exact .inl fun (hd : depth = 0) => absurd hf (by rw [if_pos hd]; simp)
    · rw [step_quoted hq hb] at h
      obtain ⟨-, rfl⟩ := Prod.mk.inj h
      exact .inr ⟨by simp, by simp⟩
  | word =>
    cases hb : Ascii.isDelimiter b with
    | false =>
      rw [step_word hb] at h
      obtain ⟨-, rfl⟩ := Prod.mk.inj h
      exact .inr ⟨by simp, by simp⟩
    | true =>
      rw [step_wordEnd hb] at h
      by_cases hd : depth = 0
      · simp [hd] at h
      · rw [if_neg hd] at h
        exact .inl (depth_startRegion_ne_zero hd h)

/-- A datum that has started stays so while the scan goes on. -/
theorem HasStarted.run {scan next : EndScan} {input : Bytes} (hs : scan.HasStarted)
    (h : scan.run input = (.goesOn, next)) : next.HasStarted := by
  induction input generalizing scan with
  | nil =>
    obtain ⟨-, rfl⟩ := Prod.mk.inj h
    exact hs
  | cons b rest ih =>
    by_cases hb : (scan.step b).1 = .goesOn
    · rw [run_cons_of_goesOn (Prod.ext hb rfl)] at h
      exact ih (hs.step (Prod.ext hb rfl)) h
    · rw [run_cons_of_ne hb] at h
      exact absurd (by rw [h]) hb

/-- Where a datum has started, not everything is blank so far. -/
theorem HasStarted.not_isBlankSoFar {scan : EndScan} (hs : scan.HasStarted) :
    scan.isBlankSoFar = false := by
  unfold HasStarted at hs
  unfold isBlankSoFar
  rcases hs with hd | ⟨hr, -⟩
  · simp [hd]
  · simp [hr]

/-- Outside a list, a byte that is neither blank nor the start of a comment
starts a datum. -/
theorem hasStarted_step {p : Nat} {b : UInt8} {next : EndScan} (hs : b ≠ Ascii.semicolon)
    (hb : Ascii.isBlank b = false) (h : step ⟨p, 0, .between⟩ b = (.goesOn, next)) :
    next.HasStarted := by
  by_cases ho : b = Ascii.listOpen
  · subst ho
    obtain ⟨-, rfl⟩ := Prod.mk.inj h
    exact .inl (by simp)
  by_cases hc : b = Ascii.listClose
  · subst hc
    rw [step_listClose, if_pos (Nat.zero_le 1)] at h
    simp at h
  by_cases hq : b = Ascii.quote
  · subst hq
    rw [step_quote] at h
    obtain ⟨-, rfl⟩ := Prod.mk.inj h
    exact .inr ⟨by simp, by simp⟩
  · have hdelim : Ascii.isDelimiter b = false := by
      simp [Ascii.isDelimiter, hb, ho, hc, hq, hs]
    rw [step_wordStart hdelim] at h
    obtain ⟨-, rfl⟩ := Prod.mk.inj h
    exact .inr ⟨by simp, by simp⟩

/-- What a scan calls blank so far has no part in reading what comes next. -/
theorem skipBlank_append_of_run {inComment : Bool} {p : Nat} {input : Bytes} {next : EndScan}
    (h : run ⟨p, 0, blankRegion inComment⟩ input = (.goesOn, next))
    (hb : next.isBlankSoFar = true) (more : Bytes) :
    Datum.skipBlank inComment (input ++ more) = Datum.skipBlank false more := by
  induction input generalizing inComment p with
  | nil =>
    obtain ⟨-, rfl⟩ := Prod.mk.inj h
    cases inComment with
    | false => rfl
    | true => simp [isBlankSoFar, blankRegion] at hb
  | cons b rest ih =>
    cases inComment with
    | true =>
      change run ⟨p, 0, .comment⟩ (b :: rest) = _ at h
      rw [run_cons_of_goesOn (step_comment p 0 b)] at h
      exact ih h
    | false =>
      change run ⟨p, 0, .between⟩ (b :: rest) = _ at h
      rw [List.cons_append, Datum.skipBlank]
      split
      · next hs =>
        rw [eq_of_beq hs, run_cons_of_goesOn (step_semicolon p 0)] at h
        exact @ih true _ h
      next hs =>
      split
      · next hblank =>
        rw [run_cons_of_goesOn (step_blank hblank p 0)] at h
        exact @ih false _ h
      · next hblank =>
        by_cases hg : (step ⟨p, 0, .between⟩ b).1 = .goesOn
        · have hstep : step ⟨p, 0, .between⟩ b = (.goesOn, (step ⟨p, 0, .between⟩ b).2) :=
            Prod.ext hg rfl
          have hstarted := hasStarted_step (by simpa using hs) (by simpa using hblank) hstep
          rw [run_cons_of_goesOn hstep] at h
          rw [(hstarted.run h).not_isBlankSoFar] at hb
          simp at hb
        · rw [run_cons_of_ne hg] at h
          exact absurd (by rw [h]) hg

end EndScan

end ReplLink.Stream
