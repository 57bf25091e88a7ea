import ReplLink.CommandLine.Launch
import ReplLink.Proofs.CommandLine.Conversing
import ReplLink.Proofs.CommandLine.Rendering

/-!
# The command line answers in order

A conversation deals with the lines of its input one after the other. As long as the
connection is up, whatever the interpreter answers and whenever, the codes of these lines
are sent, each once and in order, and for each one reply is printed before the next one is
sent: its own, or that there was none in time.
-/

namespace ReplLink.CommandLine

open ReplLink.Routing ReplLink.Stream ReplLink.Text

section Definitions

/-- The line that an input reads. -/
def Input.line? : Input → Option Line
  | .read line => some line
  | _ => none

/-- The codes that were sent, in order. -/
def codesIn (entries : List Entry) : List String := (entries.filterMap Entry.code?).reverse

/-- The lines of an input can all be dealt with: they are texts, and the end comes last. -/
structure AreReadable (all : List Line) : Prop where
  /-- No line is unreadable. -/
  text : ∀ line ∈ all, ∀ fault, line ≠ .unreadable fault
  /-- Behind the end comes nothing. -/
  last : ∀ front rest, all = front ++ .finish :: rest → rest = []

/-- The codes that were sent are those of the lines in front of the rest. -/
def Covers (all : List Line) (entries : List Entry) (rest : List Line) : Prop :=
  ∃ taken, all = taken ++ rest ∧
    ∀ later, codesOf (taken ++ later) = codesIn entries ++ codesOf later

/-- They are those of all lines, whatever is read of the rest. -/
def CoversAll (all : List Line) (entries : List Entry) (future : List Line) : Prop :=
  ∃ taken rest, all = taken ++ (rest ++ future) ∧
    ∀ later, later <+: rest ++ future → codesOf (taken ++ later) = codesIn entries

/-- How a conversation and its dialogue stand, with lines in the future that have not been
read. -/
structure IsAbreast (start : Session) (json : Bool) (all : List Line) (entries : List Entry)
    (future : List Line) (conversation : Conversation) : Prop where
  /-- The dialogue is the one of the conversation. -/
  records : Records start json entries conversation
  /-- The conversation goes on, and deals with the next line unless it waits. Or it has
  ended. -/
  stage : (Goes start entries conversation ∧ Covers all entries (conversation.queue ++ future) ∧
      (conversation.waiting = none → conversation.queue = [])) ∨
    HasEnded entries conversation ∧ CoversAll all entries future

end Definitions

section Lines

variable {start : Session} {json : Bool} {all rest : List Line} {entries more : List Entry}
  {conversation after : Conversation} {frontEnd : FrontEnd}

theorem codesIn_append (more entries : List Entry) :
    codesIn (more ++ entries) = codesIn entries ++ codesIn more := by
  rw [codesIn, List.filterMap_append, List.reverse_append]
  rfl

/-- A line that is dealt with belongs to those whose codes were sent. -/
theorem Covers.deal {line : Line} (h : Covers all entries (line :: rest))
    (hd : ∀ later, codesOf (line :: later) = codesIn more ++ codesOf later) :
    Covers all (more ++ entries) rest := by
  obtain ⟨taken, hall, hcodes⟩ := h
  refine ⟨taken ++ [line], by rw [hall, List.append_assoc, List.singleton_append], ?_⟩
  intro later
  rw [List.append_assoc, List.singleton_append, hcodes, hd, codesIn_append, List.append_assoc]

/-- Entries without code change nothing. -/
theorem Covers.append (h : Covers all entries rest)
    (hm : ∀ entry ∈ more, entry.IsPrinted ∨ entry.IsQuiet) : Covers all (more ++ entries) rest := by
  have hnone : more.filterMap Entry.code? = [] := by
    refine List.filterMap_eq_nil_iff.mpr fun entry he => ?_
    have hentry := hm entry he
    cases entry with
    | evaluated code sent file => exact absurd hentry (by simp [Entry.IsPrinted, Entry.IsQuiet])
    | _ => rfl
  obtain ⟨taken, hall, hcodes⟩ := h
  refine ⟨taken, hall, fun later => ?_⟩
  rw [hcodes, codesIn_append]
  unfold codesIn
  rw [hnone, List.reverse_nil, List.append_nil]

/-- Behind a line that ends the conversation there are no codes. -/
theorem Covers.leave {line : Line} {queue future : List Line}
    (h : Covers all entries (line :: queue ++ future)) (hall : AreReadable all)
    (hd : ∀ later, (line = .finish → later = []) → codesOf (line :: later) = []) :
    CoversAll all entries future := by
  obtain ⟨taken, heq, hcodes⟩ := h
  refine ⟨taken ++ [line], queue, ?_, fun later hl => ?_⟩
  · rw [heq, List.append_assoc]
    rfl
  · rw [List.append_assoc, hcodes, List.singleton_append, hd, List.append_nil]
    rintro rfl
    have hnil := hall.last taken (queue ++ future) heq
    exact List.prefix_nil.mp (hnil ▸ hl)

theorem takeAll_of_not_ready (h : conversation.isReady = false) (lines : List Line) :
    conversation.takeAll lines = { conversation with queue := lines } := by
  cases lines with
  | nil => rfl
  | cons line rest =>
    rw [Conversation.takeAll, if_neg (by simp [h])]

theorem Goes.isReady_iff (h : Goes start entries conversation) :
    conversation.isReady = true ↔ conversation.waiting = none := by
  simp [Conversation.isReady, h.going]

theorem Records.withQueue (h : Records start json entries conversation) (queue : List Line) :
    Records start json entries { conversation with queue } :=
  ⟨h.form, h.coherent, h.carried, h.printed, h.written⟩

theorem Goes.withQueue (h : Goes start entries conversation) (queue : List Line) :
    Goes start entries { conversation with queue } :=
  ⟨h.going, h.attends, h.awaits⟩

/-- Lines that come too early stand in the queue. -/
theorem Goes.enqueue (h : Goes start entries conversation)
    (hr : Records start json entries conversation) (hw : conversation.waiting ≠ none)
    {lines future : List Line} (hc : Covers all entries (lines ++ future)) :
    conversation.takeAll lines = { conversation with queue := lines } ∧
      IsAbreast start json all entries future { conversation with queue := lines } := by
  have hready : conversation.isReady = false := by
    rw [← Bool.not_eq_true, h.isReady_iff]
    exact hw
  exact ⟨takeAll_of_not_ready hready lines, hr.withQueue lines,
    .inl ⟨h.withQueue lines, hc, fun hnone => absurd hnone hw⟩⟩

/-- Lines are dealt with as long as nothing has to be waited for. -/
theorem Goes.takeAll (h : Goes start entries conversation)
    (hr : Records start json entries conversation)
    (hs : start.router.IsCharged start.spillPath frontEnd []) (hall : AreReadable all)
    {lines future : List Line} (hc : Covers all entries (lines ++ future)) :
    ∃ more, InTurn json (conversation.takeAll lines).session more ∧
      IsAbreast start json all (more ++ entries) future (conversation.takeAll lines) := by
  induction lines generalizing conversation entries with
  | nil => exact ⟨[], inTurn_nil json _, hr.withQueue [], .inl ⟨h.withQueue [], hc, fun _ => rfl⟩⟩
  | cons line rest ih =>
    by_cases hw : conversation.waiting = none
    · have hline : ∀ fault, line ≠ .unreadable fault := by
        obtain ⟨taken, heq, -⟩ := hc
        exact hall.text line (heq ▸ List.mem_append_right _ List.mem_cons_self)
      have htake : conversation.takeAll (line :: rest) = (conversation.take line).takeAll rest := by
        rw [Conversation.takeAll, if_pos (h.isReady_iff.mpr hw)]
      obtain ⟨more, hrecords, hturn, hstage⟩ := h.take hr hs hw hline
      rw [htake]
      rcases hstage with ⟨hgoes, hprinted, hcodes⟩ | ⟨rfl, hended, hcodes⟩
      · have hcovers := hc.deal hcodes
        by_cases hnext : (conversation.take line).waiting = none
        · obtain ⟨others, hothers, habreast⟩ := ih hgoes hrecords hcovers
          refine ⟨others ++ more, hothers.append_printed (hprinted hnext), ?_⟩
          rwa [List.append_assoc]
        · obtain ⟨hqueued, habreast⟩ := hgoes.enqueue hrecords hnext hcovers
          rw [hqueued]
          exact ⟨more, hturn, habreast⟩
      · have hover : (conversation.take line).isReady = false := by
          simpa [Conversation.isReady] using fun _ => hended.ended
        rw [takeAll_of_not_ready hover]
        exact ⟨[], hturn, hrecords.withQueue rest,
          .inr ⟨⟨hended.ended, hended.nothing, hended.idle⟩, hc.leave hall hcodes⟩⟩
    · obtain ⟨hqueued, habreast⟩ := h.enqueue hr hw hc
      rw [hqueued]
      exact ⟨[], inTurn_nil json _, habreast⟩

end Lines

section Inputs

variable {start : Session} {json : Bool} {all future : List Line} {entries : List Entry}
  {conversation : Conversation} {frontEnd : FrontEnd}

/-- What has come since is what was printed and written since. -/
theorem Records.since {after : Conversation} {come more : List Entry}
    (hb : Records start json entries conversation)
    (ha : Records start json (more ++ (come ++ entries)) after)
    (hq : ∀ entry ∈ come, entry.IsQuiet) :
    after.printed.drop conversation.printed.length
        = more.reverse.filterMap (Entry.output? json) ∧
      after.session.written.drop conversation.session.written.length
        = more.reverse.filterMap Entry.sent? := by
  have hsilent : come.filterMap (Entry.output? json) = [] ∧ come.filterMap Entry.sent? = [] := by
    constructor
    · refine List.filterMap_eq_nil_iff.mpr fun entry hm => ?_
      have hquiet := hq entry hm
      cases entry <;> first | rfl | exact absurd hquiet id
    · refine List.filterMap_eq_nil_iff.mpr fun entry hm => ?_
      have hquiet := hq entry hm
      cases entry <;> first | rfl | exact absurd hquiet id
  constructor
  · rw [ha.printed, hb.printed, List.filterMap_append, List.filterMap_append, hsilent.1,
      List.nil_append, List.reverse_append, List.drop_left, List.filterMap_reverse]
  · rw [ha.written, hb.written, List.filterMap_append, List.filterMap_append, hsilent.2,
      List.nil_append, List.reverse_append, List.drop_left, List.filterMap_reverse]

/-- An input is taken, with what comes in with it. What is seen is what is seen of the
entries that it adds. -/
theorem IsAbreast.observe {after : Conversation} {input : Input} {come more : List Entry}
    (h : IsAbreast start json all (more ++ (come ++ entries)) future after)
    (ht : InTurn json after.session more) (hb : Records start json entries conversation)
    (hg : conversation.exit = none) (ha : conversation.step input = after)
    (hq : ∀ entry ∈ come, entry.IsQuiet)
    (hc : come.reverse.map (Entry.seen json) = conversation.incoming input) :
    ∃ added, conversation.observe input = added.reverse.map (Entry.seen json) ∧
      IsAbreast start json all (added ++ entries) future after := by
  obtain ⟨hprinted, hwritten⟩ := hb.since h.records hq
  refine ⟨more ++ come, ?_, by rwa [List.append_assoc]⟩
  unfold Conversation.observe
  rw [if_neg (by simp [hg]), ha, List.reverse_append, List.map_append, hc, ht]
  dsimp only
  rw [hprinted, hwritten]

theorem queue_look (conversation : Conversation) :
    conversation.look.queue = conversation.queue := by
  unfold Conversation.look
  split
  · rfl
  · split <;> rfl

theorem queue_giveUp (conversation : Conversation) :
    conversation.giveUp.queue = conversation.queue := by
  unfold Conversation.giveUp
  split
  · rfl
  · rfl
  · exact queue_look _

/-- When something has come in and something was printed, the conversation proceeds with the
lines in the queue. -/
theorem Goes.proceed (come more : List Entry) {after : Conversation} {input : Input}
    (h : Goes start (more ++ (come ++ entries)) after)
    (hr : Records start json (more ++ (come ++ entries)) after)
    (hs : start.router.IsCharged start.spillPath frontEnd []) (hall : AreReadable all)
    (hm : ∀ entry ∈ more, entry.IsPrinted) (hq : ∀ entry ∈ come, entry.IsQuiet)
    (hb : Records start json entries conversation) (hg : conversation.exit = none)
    (hcovers : Covers all entries (after.queue ++ future))
    (hstep : conversation.step input = after.proceed)
    (hc : come.reverse.map (Entry.seen json) = conversation.incoming input) :
    ∃ added, conversation.observe input = added.reverse.map (Entry.seen json) ∧
      IsAbreast start json all (added ++ entries) future (conversation.step input) := by
  have hadded : ∀ entry ∈ more ++ come, entry.IsPrinted ∨ entry.IsQuiet := by
    intro entry he
    rcases List.mem_append.mp he with he | he
    · exact .inl (hm entry he)
    · exact .inr (hq entry he)
  have hnow := hcovers.append hadded
  rw [List.append_assoc] at hnow
  obtain ⟨others, hturn, habreast⟩ := h.takeAll hr hs hall hnow
  have hafter : conversation.step input = after.takeAll after.queue := hstep
  rw [hafter]
  rw [← List.append_assoc] at habreast
  exact habreast.observe (hturn.append_printed hm) hb hg hafter hq hc

/-- Every input keeps a conversation and its dialogue together. -/
theorem IsAbreast.step (h : IsAbreast start json all entries future conversation)
    (hs : start.router.IsCharged start.spillPath frontEnd []) (hall : AreReadable all)
    {input : Input} (hi : input ≠ .hungUp) {later : List Line}
    (hf : future = input.line?.toList ++ later) :
    ∃ added, conversation.observe input = added.reverse.map (Entry.seen json) ∧
      IsAbreast start json all (added ++ entries) later (conversation.step input) := by
  obtain ⟨hrecords, ⟨hgoes, hcovers, -⟩ | ⟨hended, hcovers⟩⟩ := h
  · have hgoing : ¬ conversation.exit.isSome = true := by simp [hgoes.going]
    have hnone : ∀ entry ∈ ([] : List Entry), entry.IsPrinted ∧ entry.IsQuiet :=
      fun _ hm => absurd hm List.not_mem_nil
    cases input with
    | hungUp => exact absurd rfl hi
    | read line =>
      have hstep : conversation.step (.read line)
          = Conversation.proceed { conversation with queue := conversation.queue ++ [line] } := by
        unfold Conversation.step
        rw [if_neg hgoing]
      rw [hf, ← List.append_assoc] at hcovers
      exact Goes.proceed [] [] (hgoes.withQueue (conversation.queue ++ [line]))
        (hrecords.withQueue _) hs hall (fun entry he => (hnone entry he).1)
        (fun entry he => (hnone entry he).2) hrecords hgoes.going hcovers hstep rfl
    | arrived chunk =>
      obtain ⟨more, hprinted, hfed, hgoesOn⟩ := hgoes.feed hrecords chunk
      have hconnected := hgoes.attends.isOpen.connected
      have hstep : conversation.step (.arrived chunk)
          = (Conversation.look { conversation with
              session := (conversation.session.feed chunk).1 }).proceed := by
        unfold Conversation.step
        rw [if_neg hgoing]
        dsimp only
        rw [if_pos hconnected]
      refine Goes.proceed _ more hgoesOn hfed hs hall hprinted ?_ hrecords hgoes.going ?_ hstep ?_
      · intro entry he
        obtain ⟨answer, -, rfl⟩ := List.mem_map.mp (List.mem_reverse.mp he)
        trivial
      · obtain rfl : future = later := hf
        rw [queue_look]
        exact hcovers
      · unfold Conversation.incoming
        dsimp only
        rw [if_pos hconnected, List.reverse_reverse, List.map_map]
        rfl
    | timeUp =>
      obtain ⟨more, hprinted, hgiven, hgoesOn⟩ := hgoes.giveUp hrecords
      have hstep : conversation.step .timeUp = conversation.giveUp.proceed := by
        unfold Conversation.step
        rw [if_neg hgoing]
      refine Goes.proceed [.timeUp] more hgoesOn hgiven hs hall hprinted
        (List.forall_mem_singleton.mpr trivial) hrecords hgoes.going ?_ hstep rfl
      obtain rfl : future = later := hf
      rw [queue_giveUp]
      exact hcovers
  · -- After the end, only lines are read.
    have hstep : conversation.step input = conversation := by
      unfold Conversation.step
      rw [if_pos hended.ended]
    have hseen : conversation.observe input = [] := by
      unfold Conversation.observe
      rw [if_pos hended.ended]
    obtain ⟨taken, rest, heq, hcodes⟩ := hcovers
    have hmore : rest ++ future = (rest ++ input.line?.toList) ++ later := by
      rw [hf, List.append_assoc]
    rw [hmore] at heq hcodes
    rw [hstep, hseen]
    exact ⟨[], rfl, hrecords, .inr ⟨hended, taken, _, heq, hcodes⟩⟩

/-- So do all of them, one after the other. -/
theorem IsAbreast.run (h : IsAbreast start json all entries future conversation)
    (hs : start.router.IsCharged start.spillPath frontEnd []) (hall : AreReadable all)
    {inputs : List Input} (hi : .hungUp ∉ inputs) {later : List Line}
    (hf : future = inputs.filterMap Input.line? ++ later) :
    ∃ added, conversation.observeAll inputs = added.reverse.map (Entry.seen json) ∧
      IsAbreast start json all (added ++ entries) later (conversation.run inputs) := by
  induction inputs generalizing conversation entries future with
  | nil =>
    obtain rfl : future = later := hf
    exact ⟨[], rfl, h⟩
  | cons input rest ih =>
    rw [List.mem_cons, not_or] at hi
    rw [Session.filterMap_cons_toList, List.append_assoc] at hf
    obtain ⟨first, hseen, habreast⟩ := h.step hs hall (Ne.symm hi.1) hf
    obtain ⟨others, hrest, hrun⟩ := ih habreast hi.2 rfl
    refine ⟨others ++ first, ?_, by rwa [List.append_assoc]⟩
    rw [Conversation.observeAll, hseen, hrest, List.reverse_append, List.map_append]

end Inputs

section Runs

/-- A conversation that is launched is at its start. -/
theorem eq_opened_of_launch {plan : Plan} {listens : String → Bool} {spillDirectory : String}
    {draw : Nat → Nat} {start : Conversation}
    (h : plan.launch listens spillDirectory draw = .ok start) :
    start = .opened plan.json (.opened context plan.settings.address plan.settings .log
      spillDirectory draw) := by
  unfold Plan.launch Session.connect at h
  split at h
  · next session hs =>
    split at hs
    · rw [← Except.ok.inj hs] at h
      exact (Except.ok.inj h).symm
    · exact absurd hs (by simp)
  · exact absurd h (by simp)

/-- The codes of the lines that were read: those that were sent, and those of the lines in the
queue. -/
theorem Covers.reads {all reads queue later : List Line} {entries : List Entry}
    (h : Covers all entries (queue ++ later)) (hall : all = reads ++ later) :
    codesOf reads = codesIn entries ++ codesOf queue := by
  obtain ⟨taken, heq, hcodes⟩ := h
  rw [hall, ← List.append_assoc] at heq
  rw [List.append_cancel_right heq, hcodes]

theorem CoversAll.reads {all reads later : List Line} {entries : List Entry}
    (h : CoversAll all entries later) (hall : all = reads ++ later) :
    codesOf reads = codesIn entries ∧ codesOf all = codesIn entries := by
  obtain ⟨taken, rest, heq, hcodes⟩ := h
  have hreads : reads = taken ++ rest := by
    rw [hall, ← List.append_assoc] at heq
    exact List.append_cancel_right heq
  exact ⟨hreads ▸ hcodes rest (List.prefix_append _ _), heq ▸ hcodes _ (List.prefix_refl _)⟩

/-- When nothing is waited for, every line of code has its reply. -/
theorem Coherent.answered {entries : List Entry} (h : Coherent entries)
    (hn : hand entries = none) :
    (entries.filterMap Entry.reply?).length = (codesIn entries).length := by
  have hcount := h.counted
  rw [hn] at hcount
  rw [codesIn, List.length_reverse, hcount]
  rfl

end Runs

end ReplLink.CommandLine
