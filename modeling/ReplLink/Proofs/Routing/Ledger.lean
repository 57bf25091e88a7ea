import ReplLink.Proofs.Routing.Machine

/-!
# Every registration is settled once

Whatever commands are given, and whatever commands callbacks give in between,
each successful registration is settled at most once, with the callback that
its end calls for and with one end of a busy time. The invariant `Sound` relates
the roster to the stack: what is not settled either waits in the roster or is
due in exactly one frame, and the ids that are out are those of the resolutions
in progress.
-/

namespace ReplLink.Routing

/-- The busy indicator of a context stops. -/
def isStop (origin : String) : Event → Bool
  | .busyStop other => other == origin
  | _ => false

/-- No busy indicator stops with these events. -/
def AreQuiet (events : List Event) : Prop := ∀ origin, events.countP (isStop origin) = 0

/-- Events that show nothing busy stop nothing either. -/
theorem AreIdle.areQuiet {events : List Event} (h : AreIdle events) : AreQuiet events := by
  intro origin
  refine List.countP_eq_zero.mpr fun event he => ?_
  have hidle := h event he
  cases event with
  | busyStop other => exact absurd hidle (by simp [Event.isBusy])
  | _ => simp [isStop]

/-- Quiet events are not counted. -/
theorem countP_note {events : List Event} (h : AreQuiet events) (router : Router)
    (origin : String) :
    (router.note events).log.countP (isStop origin) = router.log.countP (isStop origin) := by
  rw [Router.note, List.countP_append, h origin, Nat.add_zero]

/-- The callbacks that a way to be settled calls for, with their outcomes. -/
def Ending.starts (job : Job) : Ending → List (Outcome × Callback)
  | .answered outcome => [(outcome, job.callback outcome)]
  | .dismissed .fail => [(.failure Router.connectionLost, job.onFailure)]
  | .dismissed .abandon => []

namespace Registration

/-- The registration is not settled yet. -/
def isOpen (entry : Registration) : Bool := entry.endings.isEmpty

/-- A settled registration from a context. -/
def isStopped (origin : String) (entry : Registration) : Bool :=
  !entry.endings.isEmpty && entry.job.origin == origin

/-- The registration is open, or it was settled once and the callbacks that
this calls for were started, and no others. -/
def IsFair (entry : Registration) : Prop :=
  entry.endings = [] ∨
    ∃ ending, entry.endings = [ending] ∧ entry.started = ending.starts entry.job

/-- An open registration is not counted among the settled ones. -/
theorem isStopped_of_isOpen {entry : Registration} (h : entry.isOpen = true) (origin : String) :
    entry.isStopped origin = false := by
  have hends : entry.endings.isEmpty = true := h
  rw [isStopped, hends]
  rfl

/-- An open registration has had no callback to start. -/
theorem isFair_of_isOpen {entry : Registration} (h : entry.isOpen = true) : entry.IsFair :=
  .inl (List.isEmpty_iff.mp h)

/-- A registration that is settled is not open any more. -/
theorem isOpen_settle (entry : Registration) (ending : Ending) :
    (entry.settle ending).isOpen = false := by
  rw [isOpen, settle, List.isEmpty_eq_false_iff]
  exact List.concat_ne_nil ending entry.endings

/-- A registration that is settled has ended a busy time of its context. -/
theorem isStopped_settle (entry : Registration) (ending : Ending) (origin : String) :
    (entry.settle ending).isStopped origin = (entry.job.origin == origin) := by
  have hends : (entry.settle ending).endings.isEmpty = false := isOpen_settle entry ending
  rw [isStopped, hends]
  rfl

/-- An open registration is settled for the first time. -/
theorem isFair_settle {entry : Registration} {ending : Ending} (h : entry.isOpen = true)
    (hs : entry.started = ending.starts entry.job) : (entry.settle ending).IsFair := by
  have hnil : entry.endings = [] := List.isEmpty_iff.mp h
  refine .inr ⟨ending, ?_, hs⟩
  rw [settle, hnil]
  rfl

end Registration

/-- Changing an entry changes the one entry with its number. -/
theorem Book.amend_perm {book : Book} (hn : (book.map (·.number)).Nodup) {entry : Registration}
    (he : entry ∈ book) (change : Registration → Registration) :
    ∃ others, book.Perm (entry :: others) ∧
      (book.amend entry.number change).Perm (change entry :: others) := by
  obtain ⟨front, back, rfl⟩ := List.append_of_mem he
  have hsame : ∀ list : List Registration, (∀ other ∈ list, other.number ≠ entry.number) →
      (list.map fun other => if other.number = entry.number then change other else other)
        = list := by
    intro list hl
    rw [List.map_congr_left fun other ho => if_neg (hl other ho)]
    exact List.map_id list
  rw [List.map_append, List.map_cons, List.nodup_append] at hn
  obtain ⟨-, hback, hdisjoint⟩ := hn
  have hf : ∀ other ∈ front, other.number ≠ entry.number := fun other ho =>
    hdisjoint _ (List.mem_map_of_mem ho) _ List.mem_cons_self
  have hb : ∀ other ∈ back, other.number ≠ entry.number := fun other ho hm =>
    (List.nodup_cons.mp hback).1 (hm ▸ List.mem_map_of_mem ho)
  refine ⟨front ++ back, List.perm_middle, ?_⟩
  rw [amend, List.map_append, List.map_cons, if_pos rfl, hsame front hf, hsame back hb]
  exact List.perm_middle

namespace Frame

/-- The registrations that a frame is there to settle. -/
def due : Frame → List Registration
  | .finish entry _ => [entry]
  | .release _ entry => [entry]
  | .dismiss _ entries => entries
  | _ => []

/-- The id whose resolution a frame ends. -/
def resolving : Frame → List String
  | .finish entry _ => [entry.id]
  | _ => []

/-- The callbacks were started that the frame's registrations call for. -/
def IsReady : Frame → Prop
  | .finish entry outcome => entry.started = (Ending.answered outcome).starts entry.job
  | .release policy entry => entry.started = (Ending.dismissed policy).starts entry.job
  | .dismiss _ entries => ∀ entry ∈ entries, entry.started = []
  | _ => True

end Frame

namespace Machine

/-- The registrations of the jobs that wait. -/
def held (machine : Machine) : List Registration :=
  machine.router.roster.waiting.map fun pair => machine.entryOf pair.1 pair.2

/-- What is still to be settled: the jobs that wait, and those in the frames. -/
def due (machine : Machine) : List Registration :=
  machine.held ++ machine.stack.flatMap Frame.due

/-- Roster, stack, book and log agree. -/
structure Sound (machine : Machine) : Prop where
  /-- No id is registered twice. -/
  keys : machine.router.roster.keys.Nodup
  /-- Registrations are numbered in order. -/
  numbered : machine.book.map (·.number) = List.range machine.book.length
  /-- What is still to be settled are the open registrations, each once. -/
  due : machine.due.Perm (machine.book.filter (·.isOpen))
  /-- The ids that are out are being resolved, each once. -/
  out : machine.router.roster.outIds.Perm (machine.stack.flatMap Frame.resolving)
  /-- The frames' callbacks were started. -/
  ready : ∀ frame ∈ machine.stack, frame.IsReady
  /-- No registration was settled twice, or without its callback. -/
  fair : ∀ entry ∈ machine.book, entry.IsFair
  /-- Each settled registration has ended a busy time, if these are shown. -/
  stops : ∀ origin, machine.router.log.countP (isStop origin)
    = if machine.router.frontEnd = .editor then machine.book.countP (·.isStopped origin) else 0

/-- One of the registrations that are due is changed, and is due no longer if
that settles it. Everything else stays due. -/
theorem Sound.exchange {machine next : Machine} (h : machine.Sound) {entry : Registration}
    {others : List Registration} (hdue : machine.due.Perm (entry :: others))
    (change : Registration → Registration) (hnumber : ∀ e, (change e).number = e.number)
    (hbook : next.book = machine.book.amend entry.number change)
    (hdue' : next.due.Perm ([change entry].filter (·.isOpen) ++ others))
    (hkeys : next.router.roster.keys.Nodup)
    (hout : next.router.roster.outIds.Perm (next.stack.flatMap Frame.resolving))
    (hready : ∀ frame ∈ next.stack, frame.IsReady) (hfair : (change entry).IsFair)
    (hfront : next.router.frontEnd = machine.router.frontEnd)
    (hstops : ∀ origin,
      next.router.log.countP (isStop origin) = machine.router.log.countP (isStop origin)
        + if machine.router.frontEnd = .editor then [change entry].countP (·.isStopped origin)
          else 0) : next.Sound := by
  have hopen := List.mem_filter.mp (h.due.mem_iff.mp (hdue.mem_iff.mpr List.mem_cons_self))
  have hnodup : (machine.book.map (·.number)).Nodup := h.numbered ▸ List.nodup_range
  obtain ⟨rest, hold, hnew⟩ := Book.amend_perm hnodup hopen.1 change
  rw [← hbook] at hnew
  have hrest : others.Perm (rest.filter (·.isOpen)) := by
    have hp := hdue.symm.trans (h.due.trans (hold.filter _))
    rw [List.filter_cons_of_pos hopen.2] at hp
    exact hp.cons_inv
  refine
    { keys := hkeys
      numbered := ?_
      due := ?_
      out := hout
      ready := hready
      fair := ?_
      stops := ?_ }
  · have hmap : next.book.map (·.number) = machine.book.map (·.number) := by
      rw [hbook, Book.amend, List.map_map]
      refine List.map_congr_left fun e _ => ?_
      by_cases he : e.number = entry.number
      · simp only [Function.comp_apply, if_pos he, hnumber]
      · simp only [Function.comp_apply, if_neg he]
    have hlength : next.book.length = machine.book.length := by
      rw [hbook, Book.amend, List.length_map]
    rw [hmap, hlength, h.numbered]
  · have hp := hnew.filter (·.isOpen)
    rw [← List.singleton_append, List.filter_append] at hp
    exact hdue'.trans ((hrest.append_left _).trans hp.symm)
  · intro e he
    rcases List.mem_cons.mp (hnew.mem_iff.mp he) with rfl | he
    · exact hfair
    · exact h.fair e (hold.mem_iff.mpr (List.mem_cons_of_mem _ he))
  · intro origin
    have hclosed := Registration.isStopped_of_isOpen hopen.2 origin
    rw [hstops, h.stops, hfront, hold.countP_eq, hnew.countP_eq]
    by_cases hf : machine.router.frontEnd = .editor
    · simp only [if_pos hf, List.countP_cons, List.countP_nil, hclosed, Bool.false_eq_true,
        if_false]
      omega
    · simp only [if_neg hf]

/-- An editor is shown one end of a busy time for a settled registration. -/
theorem countP_stop_settle (frontEnd : FrontEnd) (entry : Registration) (ending : Ending)
    (origin : String) :
    (frontEnd.stop entry.job.origin).countP (isStop origin)
      = if frontEnd = .editor then [entry.settle ending].countP (·.isStopped origin) else 0 := by
  cases frontEnd with
  | editor =>
    simp only [FrontEnd.stop, List.countP_cons, List.countP_nil, isStop,
      Registration.isStopped_settle, if_true]
    rfl
  | log => rfl

/-- One of the registrations that are due is settled, with one end of its busy
time. -/
theorem Sound.settle {machine next : Machine} (h : machine.Sound) {entry : Registration}
    {others : List Registration} (hdue : machine.due.Perm (entry :: others)) {ending : Ending}
    (hstarted : entry.started = ending.starts entry.job)
    (hbook : next.book = machine.book.amend entry.number (·.settle ending))
    (hdue' : next.due.Perm others) (hkeys : next.router.roster.keys.Nodup)
    (hout : next.router.roster.outIds.Perm (next.stack.flatMap Frame.resolving))
    (hready : ∀ frame ∈ next.stack, frame.IsReady)
    (hfront : next.router.frontEnd = machine.router.frontEnd) {events : List Event}
    (hquiet : AreQuiet events)
    (hlog : next.router.log
      = machine.router.log ++ events ++ machine.router.frontEnd.stop entry.job.origin) :
    next.Sound := by
  have hopen := List.mem_filter.mp (h.due.mem_iff.mp (hdue.mem_iff.mpr List.mem_cons_self))
  refine h.exchange hdue (·.settle ending) (fun _ => rfl) hbook ?_ hkeys hout hready
    (Registration.isFair_settle hopen.2 hstarted) hfront fun origin => ?_
  · rw [List.filter_cons_of_neg (by simp [Registration.isOpen_settle])]
    exact hdue'
  · rw [hlog, List.countP_append, List.countP_append, hquiet origin, Nat.add_zero,
      countP_stop_settle]

/-- What neither touches roster and book nor ends a busy time changes nothing,
nor does a frame without registrations. -/
theorem Sound.keep {machine next : Machine} (h : machine.Sound)
    (hbook : next.book = machine.book) (hnumbers : next.numbers = machine.numbers)
    (hroster : next.router.roster = machine.router.roster)
    (hdue : next.stack.flatMap Frame.due = machine.stack.flatMap Frame.due)
    (hresolving : next.stack.flatMap Frame.resolving = machine.stack.flatMap Frame.resolving)
    (hready : ∀ frame ∈ next.stack, frame ∈ machine.stack ∨ frame.IsReady)
    (hfront : next.router.frontEnd = machine.router.frontEnd)
    (hlog : ∀ origin, next.router.log.countP (isStop origin)
      = machine.router.log.countP (isStop origin)) : next.Sound where
  keys := hroster ▸ h.keys
  numbered := hbook ▸ h.numbered
  due := by
    have hd : next.due = machine.due := by
      rw [Machine.due, Machine.due, held, held, hroster, hdue]
      simp only [entryOf, hnumbers]
    rw [hd, hbook]
    exact h.due
  out := by
    rw [hroster, hresolving]
    exact h.out
  ready := fun frame hf => (hready frame hf).elim (h.ready frame) id
  fair := hbook ▸ h.fair
  stops := by
    intro origin
    rw [hlog, hbook, hfront]
    exact h.stops origin

end Machine

/-- The frame of a callback has no registration to settle. -/
theorem Frame.due_frames (callback : Callback) : callback.frames.flatMap Frame.due = [] := by
  cases callback <;> rfl

/-- The frame of a callback ends no resolution. -/
theorem Frame.resolving_frames (callback : Callback) :
    callback.frames.flatMap Frame.resolving = [] := by
  cases callback <;> rfl

/-- The frame of a callback needs no callback to have been started before. -/
theorem Frame.isReady_frames {callback : Callback} {frame : Frame}
    (h : frame ∈ callback.frames) : frame.IsReady := by
  cases callback with
  | run program =>
    rw [List.mem_singleton.mp h]
    trivial
  | silent => exact absurd h List.not_mem_nil
  | report => exact absurd h List.not_mem_nil
  | acknowledge => exact absurd h List.not_mem_nil
  | panic what => exact absurd h List.not_mem_nil

namespace Machine

/-- A new registration has the next number of the book. -/
theorem numbers_register_self (machine : Machine) (id : String) (job : Job) :
    (machine.register id job).numbers id = machine.book.length := if_pos rfl

/-- The other ids keep the numbers of their registrations. -/
theorem numbers_register_of_ne (machine : Machine) {id other : String} (h : other ≠ id)
    (job : Job) : (machine.register id job).numbers other = machine.numbers other := if_neg h

/-- A registration is open and waits. -/
theorem Sound.register {machine : Machine} (h : machine.Sound) {id : String}
    (hid : machine.router.roster.get? id = none) (job : Job) :
    (machine.register id job).Sound where
  keys := Keyed.nodup_keys_put h.keys id _
  numbered := by
    rw [Machine.register, List.map_append, h.numbered, List.length_append]
    exact List.range_succ.symm
  due := by
    have hheld : (machine.register id job).held.Perm
        (⟨machine.book.length, id, job, [], []⟩ :: machine.held) := by
      have hp := (Roster.waiting_enter hid job).map
        fun pair => (machine.register id job).entryOf pair.1 pair.2
      refine hp.trans (List.Perm.of_eq ?_)
      rw [List.map_cons]
      congr 1
      · exact congrArg (Registration.mk · id job [] []) (numbers_register_self machine id job)
      · refine List.map_congr_left fun pair hm => ?_
        -- Ids that wait keep their numbers.
        have hne : pair.1 ≠ id := by
          intro he
          have hw := (Roster.mem_waiting_iff h.keys).mp (show (pair.1, pair.2) ∈ _ from hm)
          rw [he, Roster.heldUnder, hid] at hw
          exact absurd hw (by simp)
        rw [entryOf, entryOf, numbers_register_of_ne machine hne job]
    have hbook : (machine.register id job).book.filter (·.isOpen)
        = machine.book.filter (·.isOpen) ++ [⟨machine.book.length, id, job, [], []⟩] := by
      rw [Machine.register, List.filter_append]
      rfl
    rw [hbook]
    exact (hheld.append_right _).trans
      ((h.due.cons _).trans (List.perm_append_singleton _ _).symm)
  out := (Roster.outIds_enter hid job).trans h.out
  ready := h.ready
  fair := by
    intro entry he
    rcases List.mem_append.mp he with he | he
    · exact h.fair entry he
    · rw [List.mem_singleton.mp he]
      exact Registration.isFair_of_isOpen rfl
  stops := by
    intro origin
    have hs := h.stops origin
    rw [Machine.register, List.countP_append]
    exact hs

/-- A callback that is started is noted in the book. -/
theorem held_start (machine : Machine) (entry : Registration) (outcome : Outcome) :
    (machine.start entry outcome).held = machine.held := rfl

/-- A callback that starts leaves the same registrations due. -/
theorem due_start (machine : Machine) (entry : Registration) (outcome : Outcome) :
    (machine.start entry outcome).due = machine.due := by
  rw [due, held_start, start, List.flatMap_append, Frame.due_frames, List.nil_append]
  rfl

/-- A callback that starts leaves the same responses being resolved. -/
theorem resolving_start (machine : Machine) (entry : Registration) (outcome : Outcome) :
    (machine.start entry outcome).stack.flatMap Frame.resolving
      = machine.stack.flatMap Frame.resolving := by
  rw [start, List.flatMap_append, Frame.resolving_frames, List.nil_append]

/-- Whatever is in progress stays ready when a callback starts. -/
theorem ready_start {machine : Machine} (h : ∀ frame ∈ machine.stack, frame.IsReady)
    (entry : Registration) (outcome : Outcome) :
    ∀ frame ∈ (machine.start entry outcome).stack, frame.IsReady := by
  intro frame hf
  rcases List.mem_append.mp hf with hf | hf
  · exact Frame.isReady_frames hf
  · exact h frame hf

/-- The start of a callback stops no busy time. -/
theorem countP_start (machine : Machine) (entry : Registration) (outcome : Outcome)
    (origin : String) :
    (machine.start entry outcome).router.log.countP (isStop origin)
      = machine.router.log.countP (isStop origin) :=
  countP_note (areIdle_announce _ entry.job outcome).areQuiet machine.router origin

/-- The callback of a registration that is due is started. The registration
stays due, with the callback noted in it. -/
theorem Sound.start {machine noted : Machine} (h : machine.Sound) {entry : Registration}
    {others : List Registration} {outcome : Outcome} (hdue : machine.due.Perm (entry :: others))
    (hbook : noted.book = machine.book)
    (hdue' : noted.due.Perm (entry.start outcome :: others))
    (hkeys : noted.router.roster.keys.Nodup)
    (hout : noted.router.roster.outIds.Perm (noted.stack.flatMap Frame.resolving))
    (hready : ∀ frame ∈ noted.stack, frame.IsReady)
    (hfront : noted.router.frontEnd = machine.router.frontEnd)
    (hlog : ∀ origin, noted.router.log.countP (isStop origin)
      = machine.router.log.countP (isStop origin)) : (noted.start entry outcome).Sound := by
  have hopen := List.mem_filter.mp (h.due.mem_iff.mp (hdue.mem_iff.mpr List.mem_cons_self))
  have hstays : (entry.start outcome).isOpen = true := hopen.2
  refine h.exchange hdue (·.start outcome) (fun _ => rfl) ?_ ?_ hkeys ?_
    (ready_start hready entry outcome) (Registration.isFair_of_isOpen hstays) hfront
    fun origin => ?_
  · rw [Machine.start, hbook]
  · rw [due_start, List.filter_cons_of_pos hstays]
    exact hdue'
  · rw [resolving_start]
    exact hout
  · have hnone : [entry.start outcome].countP (·.isStopped origin) = 0 :=
      List.countP_cons_of_neg (by simp [Registration.isStopped_of_isOpen hstays])
    rw [countP_start, hnone, ite_self, Nat.add_zero]
    exact hlog origin

/-- A resolution takes a job that waits and is due to end it. -/
theorem Sound.resolve {machine : Machine} (h : machine.Sound) {response : Response} {job : Job}
    (hh : machine.router.roster.heldUnder response.requestId = some job) :
    (machine.resolve response job).Sound := by
  have hwaiting := (Roster.waiting_checkOut h.keys hh).map
    fun pair => machine.entryOf pair.1 pair.2
  have hdue : machine.due.Perm (machine.entryOf response.requestId job ::
      ((Roster.waiting (machine.router.roster.put response.requestId .out)).map
        (fun pair => machine.entryOf pair.1 pair.2) ++ machine.stack.flatMap Frame.due)) :=
    hwaiting.append_right _
  rw [Machine.resolve, Router.showFailure_eq]
  refine h.start hdue rfl List.perm_middle (Keyed.nodup_keys_put h.keys _ _)
    ((Roster.outIds_checkOut h.keys hh).trans (h.out.cons _)) (fun frame hf => ?_) rfl
    fun origin => countP_note (areIdle_shownEvents _ job response.outcome).areQuiet _ origin
  rcases List.mem_cons.mp hf with rfl | hf
  · rfl
  · exact h.ready frame hf

/-- What waits is taken out of the roster, to be ended. -/
theorem Sound.takeAll {machine : Machine} (h : machine.Sound) (policy : Policy) :
    (machine.takeAll policy).Sound where
  keys := Roster.nodup_keys_checkedOut h.keys
  numbered := h.numbered
  due := by
    have hd : (machine.takeAll policy).due = machine.due := by
      have hheld : (machine.takeAll policy).held = [] := by
        rw [held, Machine.takeAll, Roster.waiting_checkedOut]
        rfl
      rw [Machine.due, hheld, List.nil_append]
      rfl
    rw [hd]
    exact h.due
  out := by
    rw [Machine.takeAll, Roster.outIds_checkedOut]
    exact h.out
  ready := by
    intro frame hf
    rcases List.mem_cons.mp hf with rfl | hf
    · intro entry he
      obtain ⟨pair, -, rfl⟩ := List.mem_map.mp he
      rfl
    · exact h.ready frame hf
  fair := h.fair
  stops := h.stops

/-- A frame without registrations may go. -/
theorem Sound.pop {machine : Machine} (h : machine.Sound) {frame : Frame} {rest : List Frame}
    (hs : machine.stack = frame :: rest) (hd : frame.due = []) (hr : frame.resolving = []) :
    Sound { machine with stack := rest } := by
  refine h.keep rfl rfl rfl ?_ ?_ (fun f hf => .inl (hs ▸ List.mem_cons_of_mem _ hf)) rfl
    fun _ => rfl
  · rw [hs, List.flatMap_cons, hd, List.nil_append]
  · rw [hs, List.flatMap_cons, hr, List.nil_append]

/-- A frame without registrations may come. -/
theorem Sound.push {machine : Machine} (h : machine.Sound) (frame : Frame) (hd : frame.due = [])
    (hr : frame.resolving = []) (hready : frame.IsReady) :
    Sound { machine with stack := frame :: machine.stack } := by
  refine h.keep rfl rfl rfl ?_ ?_ (fun f hf => ?_) rfl fun _ => rfl
  · rw [List.flatMap_cons, hd, List.nil_append]
  · rw [List.flatMap_cons, hr, List.nil_append]
  · rcases List.mem_cons.mp hf with rfl | hf
    · exact .inr hready
    · exact .inl hf

/-- Quiet events may be noted. -/
theorem Sound.note {machine : Machine} (h : machine.Sound) {events : List Event}
    (hq : AreQuiet events) : Sound { machine with router := machine.router.note events } :=
  h.keep rfl rfl rfl rfl rfl (fun _ hf => .inl hf) rfl (countP_note hq machine.router)

/-- Beginning a command keeps everything in agreement. -/
theorem Sound.give {machine : Machine} (h : machine.Sound) (command : Command) :
    (machine.give command).Sound := by
  cases command with
  | enter id job =>
    rw [Machine.give]
    split
    · exact h.keep rfl rfl rfl rfl rfl (fun _ hf => .inl hf) rfl fun _ => rfl
    · next hc =>
      refine h.register ?_ job
      rw [Keyed.contains, Bool.not_eq_true, Option.isSome_eq_false_iff, Option.isNone_iff_eq_none]
        at hc
      exact hc
  | route response =>
    rw [Machine.give]
    cases hh : machine.router.roster.heldUnder response.requestId with
    | some job => exact h.resolve hh
    | none => exact h.note fun _ => rfl
  | endAll policy => exact h.takeAll policy
  | describe job =>
    exact h.keep rfl rfl rfl rfl rfl (fun _ hf => .inl hf) rfl fun _ => rfl
  | deleteFile path =>
    exact h.keep rfl rfl rfl rfl rfl (fun _ hf => .inl hf) rfl fun _ => rfl
  | contains id => exact h
  | size => exact h
  | summary => exact h

/-- What is due on top of the stack may be named first. -/
theorem due_perm {machine : Machine} {frame : Frame} {rest : List Frame}
    (hs : machine.stack = frame :: rest) :
    machine.due.Perm (frame.due ++ (machine.held ++ rest.flatMap Frame.due)) := by
  rw [due, hs, List.flatMap_cons]
  exact List.perm_append_comm_assoc _ _ _

/-- The ids that are out, by the frames of a stack. -/
theorem Sound.out_perm {machine : Machine} (h : machine.Sound) {frame : Frame}
    {rest : List Frame} (hs : machine.stack = frame :: rest) :
    machine.router.roster.outIds.Perm
      (frame.resolving ++ rest.flatMap Frame.resolving) := by
  have ho := h.out
  rwa [hs, List.flatMap_cons] at ho

/-- The frames below the top are ready. -/
theorem Sound.ready_rest {machine : Machine} (h : machine.Sound) {frame : Frame}
    {rest : List Frame} (hs : machine.stack = frame :: rest) : ∀ f ∈ rest, f.IsReady :=
  fun f hf => h.ready f (hs ▸ List.mem_cons_of_mem _ hf)

/-- The end of a resolution settles its registration. -/
theorem Sound.finish {machine : Machine} (h : machine.Sound) {entry : Registration}
    {outcome : Outcome} {rest : List Frame} (hs : machine.stack = .finish entry outcome :: rest) :
    Sound
      { machine with
        router := machine.router.finish entry.id entry.job outcome
          (entry.job.callback outcome).panic?
        book := machine.book.amend entry.number (·.settle (.answered outcome))
        stack := rest } := by
  have hout : machine.router.roster.outIds.Perm (entry.id :: rest.flatMap Frame.resolving) :=
    h.out_perm hs
  have hmarked : machine.router.roster.get? entry.id = some .out :=
    (Roster.mem_outIds_iff h.keys).mp (hout.mem_iff.mpr List.mem_cons_self)
  have hstarted : entry.started = (Ending.answered outcome).starts entry.job :=
    h.ready (.finish entry outcome) (hs ▸ List.mem_cons_self)
  have hwaiting := (Roster.waiting_free h.keys hmarked).map
    fun pair => machine.entryOf pair.1 pair.2
  rw [Router.finish_eq]
  exact h.settle (due_perm hs) hstarted rfl (hwaiting.append_right _)
    (Keyed.nodup_keys_erase h.keys entry.id)
    ((Roster.outIds_free h.keys hmarked).symm.trans hout).cons_inv (h.ready_rest hs) rfl
    (areIdle_panicEvents entry.id (entry.job.callback outcome).panic?).areQuiet rfl

/-- The end of a job whose connection went away settles its registration. -/
theorem Sound.release {machine : Machine} (h : machine.Sound) {entry : Registration}
    {policy : Policy} {rest : List Frame} (hs : machine.stack = .release policy entry :: rest) :
    Sound
      { machine with
        router := ((machine.router.notePanic entry.id (policy.panic? entry.job)).release
          entry.job).tell entry.job (Router.lastWord policy)
        book := machine.book.amend entry.number (·.settle (.dismissed policy))
        stack := rest } := by
  have hstarted : entry.started = (Ending.dismissed policy).starts entry.job :=
    h.ready (.release policy entry) (hs ▸ List.mem_cons_self)
  rw [Router.notePanic_eq, Router.release_eq, Router.tell_eq]
  exact h.settle (due_perm hs) hstarted rfl (List.Perm.refl _) h.keys (h.out_perm hs)
    (h.ready_rest hs) rfl (areIdle_panicEvents entry.id (policy.panic? entry.job)).areQuiet rfl

/-- A job whose connection went away is next to be ended. -/
theorem Sound.dismissOne {machine : Machine} (h : machine.Sound) {policy : Policy}
    {entry : Registration} {others : List Registration} {rest : List Frame}
    (hs : machine.stack = .dismiss policy (entry :: others) :: rest) :
    (Machine.dismissOne { machine with stack := .dismiss policy others :: rest } policy
      entry).Sound := by
  have hfresh : ∀ other ∈ entry :: others, other.started = [] :=
    h.ready (.dismiss policy (entry :: others)) (hs ▸ List.mem_cons_self)
  have hnil : entry.started = [] := hfresh entry List.mem_cons_self
  have hothers : ∀ frame ∈ Frame.dismiss policy others :: rest, frame.IsReady := by
    intro frame hf
    rcases List.mem_cons.mp hf with rfl | hf
    · exact fun other ho => hfresh other (List.mem_cons_of_mem _ ho)
    · exact h.ready_rest hs frame hf
  have hended (origin : String) := @countP_note
    [.notice (.ended entry.id entry.job.origin policy)] (fun _ => rfl) machine.router origin
  cases policy with
  | abandon =>
    refine h.keep rfl rfl rfl ?_ ?_ (fun frame hf => .inr ?_) rfl hended
    · rw [hs]
      rfl
    · rw [hs]
      rfl
    · rcases List.mem_cons.mp hf with rfl | hf
      · exact hnil
      · exact hothers frame hf
  | fail =>
    have hdue : machine.due.Perm
        (entry :: (others ++ (machine.held ++ rest.flatMap Frame.due))) := due_perm hs
    have hstart : (entry.start (.failure Router.connectionLost)).started
        = (Ending.dismissed .fail).starts entry.job := by
      rw [Registration.start, hnil]
      rfl
    have hout : machine.router.roster.outIds.Perm
        (Frame.resolving (.dismiss .fail (entry :: others)) ++ rest.flatMap Frame.resolving) :=
      h.out_perm hs
    -- The started entry moves in front of all that is still to be dismissed.
    have hmove : (machine.held ++ (entry.start (.failure Router.connectionLost)
          :: (others ++ rest.flatMap Frame.due))).Perm
        (entry.start (.failure Router.connectionLost)
          :: (others ++ (machine.held ++ rest.flatMap Frame.due))) :=
      List.perm_middle.trans ((List.perm_append_comm_assoc _ _ _).cons _)
    rw [Machine.dismissOne]
    refine h.start hdue rfl hmove h.keys hout (fun frame hf => ?_) rfl hended
    rcases List.mem_cons.mp hf with rfl | hf
    · exact hstart
    · exact hothers frame hf

/-- Each step keeps everything in agreement. -/
theorem Sound.step {machine : Machine} (h : machine.Sound) : machine.step.Sound := by
  rw [Machine.step]
  split
  · exact h
  · next hs => exact h.pop hs rfl rfl
  · next hs => exact Sound.give ((h.pop hs rfl rfl).push (.queue _) rfl rfl trivial) _
  · next hs => exact h.pop hs rfl rfl
  · next hs =>
    exact Sound.give (((h.pop hs rfl rfl).push (.program _) rfl rfl trivial).push (.report _)
      rfl rfl trivial) _
  · next hs => exact (h.pop hs rfl rfl).note fun _ => rfl
  · next hs => exact h.finish hs
  · next hs => exact h.pop hs rfl rfl
  · next hs => exact h.dismissOne hs
  · next hs => exact h.release hs

/-- At any time everything is in agreement. -/
theorem Sound.after {machine : Machine} (h : machine.Sound) (count : Nat) :
    (machine.after count).Sound := by
  induction count generalizing machine with
  | zero => exact h
  | succ count ih => exact ih h.step

/-- Before the first command everything is in agreement. -/
theorem sound_idle (frontEnd : FrontEnd) (commands : List Command) :
    (idle frontEnd commands).Sound where
  keys := List.nodup_nil
  numbered := rfl
  due := List.Perm.refl _
  out := List.Perm.refl _
  ready := by
    intro frame hf
    rw [List.mem_singleton.mp hf]
    trivial
  fair := fun entry he => absurd he List.not_mem_nil
  stops := fun _ => (ite_self 0).symm

/-- What the book tells at any time. -/
structure Tallies (machine : Machine) : Prop where
  /-- Each entry is a registration of its own. -/
  numbered : machine.book.map (·.number) = List.range machine.book.length
  /-- No registration is settled twice. -/
  once : ∀ entry ∈ machine.book, entry.endings.length ≤ 1
  /-- A response that tells of a success starts the success callback, once. -/
  succeeded : ∀ entry ∈ machine.book, ∀ value, .answered (.success value) ∈ entry.endings →
    entry.started = [(.success value, entry.job.onSuccess)]
  /-- A response that tells of a failure starts the failure callback, once. -/
  failed : ∀ entry ∈ machine.book, ∀ failure, .answered (.failure failure) ∈ entry.endings →
    entry.started = [(.failure failure, entry.job.onFailure)]
  /-- The failing policy starts the failure callback, once. -/
  dismissed : ∀ entry ∈ machine.book, .dismissed .fail ∈ entry.endings →
    entry.started = [(.failure ⟨"connection closed", []⟩, entry.job.onFailure)]
  /-- The abandoning policy starts no callback. -/
  abandoned : ∀ entry ∈ machine.book, .dismissed .abandon ∈ entry.endings → entry.started = []
  /-- Busy times end as often as registrations from their context are settled,
  for an editor; no other front end is shown any. -/
  stops : ∀ origin, machine.router.log.countP (isStop origin)
    = if machine.router.frontEnd = .editor then machine.book.countP (·.isStopped origin) else 0

/-- Where everything is in agreement, the book tells of each registration what it should. -/
theorem Sound.tallies {machine : Machine} (h : machine.Sound) : machine.Tallies := by
  have hstarted : ∀ entry ∈ machine.book, ∀ ending ∈ entry.endings,
      entry.endings.length ≤ 1 ∧ entry.started = ending.starts entry.job := by
    intro entry he ending hm
    rcases h.fair entry he with hnil | ⟨only, honly, hs⟩
    · rw [hnil] at hm
      exact absurd hm List.not_mem_nil
    · rw [honly] at hm ⊢
      rw [List.mem_singleton.mp hm]
      exact ⟨Nat.le_refl 1, hs⟩
  exact
    { numbered := h.numbered
      once := fun entry he => by
        cases hends : entry.endings with
        | nil => exact Nat.zero_le 1
        | cons ending rest =>
          have ho := (hstarted entry he ending (hends ▸ List.mem_cons_self)).1
          rwa [hends] at ho
      succeeded := fun entry he _ hm => (hstarted entry he _ hm).2
      failed := fun entry he _ hm => (hstarted entry he _ hm).2
      dismissed := fun entry he hm => (hstarted entry he _ hm).2
      abandoned := fun entry he hm => (hstarted entry he _ hm).2
      stops := h.stops }

/-- Where no resolution is in progress, the registered ids are those of the
open registrations, and each of them can be resolved. -/
theorem Sound.registered {machine : Machine} (h : machine.Sound)
    (hdue : machine.stack.flatMap Frame.due = [])
    (hresolving : machine.stack.flatMap Frame.resolving = []) (id : String) :
    (id ∈ machine.router.ids ↔ ∃ entry ∈ machine.book, entry.id = id ∧ entry.endings = []) ∧
      (id ∈ machine.router.ids → ∃ job, machine.router.roster.heldUnder id = some job) := by
  have hout : machine.router.roster.outIds = [] := by
    have ho := h.out
    rw [hresolving] at ho
    exact ho.eq_nil
  have hheld : machine.held.Perm (machine.book.filter (·.isOpen)) := by
    have hd := h.due
    rwa [Machine.due, hdue, List.append_nil] at hd
  have hkey : id ∈ machine.router.ids → ∃ job, machine.router.roster.heldUnder id = some job := by
    intro hm
    obtain ⟨holding, hg⟩ := Keyed.mem_keys_iff.mp hm
    cases holding with
    | held job => exact ⟨job, by rw [Roster.heldUnder, hg]⟩
    | out =>
      have hmem := (Roster.mem_outIds_iff h.keys).mpr hg
      rw [hout] at hmem
      exact absurd hmem List.not_mem_nil
  refine ⟨⟨fun hm => ?_, ?_⟩, hkey⟩
  · obtain ⟨job, hj⟩ := hkey hm
    have hw := (Roster.mem_waiting_iff h.keys).mpr hj
    have hentry : machine.entryOf id job ∈ machine.held := List.mem_map.mpr ⟨(id, job), hw, rfl⟩
    have hb := hheld.mem_iff.mp hentry
    exact ⟨_, (List.mem_filter.mp hb).1, rfl, rfl⟩
  · rintro ⟨entry, he, rfl, hends⟩
    have hb : entry ∈ machine.book.filter (·.isOpen) :=
      List.mem_filter.mpr ⟨he, List.isEmpty_iff.mpr hends⟩
    obtain ⟨pair, hp, rfl⟩ := List.mem_map.mp (hheld.mem_iff.mpr hb)
    have hj := (Roster.mem_waiting_iff h.keys).mp (show (pair.1, pair.2) ∈ _ from hp)
    exact Keyed.mem_keys_iff.mpr ⟨_, Roster.get?_of_heldUnder hj⟩

/-- Whatever is given to a router, also by callbacks that it runs, every
successful registration is settled at most once: with the success callback after a
success, with the failure callback after a failure or under the failing policy, with
none under the abandoning one, and with one end of a busy time. Between two commands
from outside the registered ids are those of the registrations that are not settled
yet, and each of them can be resolved. -/
theorem settled_at_most_once (frontEnd : FrontEnd) (done rest : List Command) :
    (∀ count, ((idle frontEnd (done ++ rest)).after count).Tallies) ∧
      ∃ count,
        ((idle frontEnd (done ++ rest)).after count).router = performed frontEnd done ∧
        ((idle frontEnd (done ++ rest)).after count).stack = [.queue rest] ∧
        (∀ id, id ∈ (performed frontEnd done).ids ↔
          ∃ entry ∈ ((idle frontEnd (done ++ rest)).after count).book,
            entry.id = id ∧ entry.endings = []) ∧
        ∀ id ∈ (performed frontEnd done).ids, ∀ outcome,
          ((performed frontEnd done).perform (.route ⟨id, outcome⟩)).2 = .done := by
  refine ⟨fun count => ((sound_idle frontEnd (done ++ rest)).after count).tallies, ?_⟩
  obtain ⟨count, hr, hs⟩ := comes_queue done rest
    (show (idle frontEnd (done ++ rest)).stack = [.queue (done ++ rest)] from rfl)
  have hsound := (sound_idle frontEnd (done ++ rest)).after count
  have hids := hsound.registered (by rw [hs]; rfl) (by rw [hs]; rfl)
  rw [hr] at hids
  refine ⟨count, hr, hs, fun id => (hids id).1, fun id hm outcome => ?_⟩
  obtain ⟨job, hj⟩ := (hids id).2 hm
  have hheld : (performed frontEnd done).roster.heldUnder id = some job := hj
  rw [Router.perform_snd, Router.replyTo, hheld]

/-- A job whose success callback registers another job, routes a failure to a third one, and
tries to register its own id. -/
def quarreller : Job :=
  { JobOf.plain "quarreller" "left" "left" with
    onSuccess := .run [.enter "c" { JobOf.plain "late" "left" "left" with onFailure := .report },
      .route ⟨"b", .failure ⟨"no such name", []⟩⟩, .enter "a" (.plain "twin" "left" "left")] }

/-- A job whose failure callback routes a response to whoever has run it, and ends all jobs. -/
def avenger : Job :=
  { JobOf.plain "avenger" "right" "right" with
    onFailure := .run [.route ⟨"a", .success none⟩, .endAll .fail] }

/-- Both are registered, and the first one gets a response. Another job is registered. -/
def quarrel : List Command :=
  [.enter "a" quarreller, .enter "b" avenger, .route ⟨"a", .success none⟩,
    .enter "d" (.plain "last" "right" "right")]

/-- Afterwards that job is abandoned. -/
def aftermath : List Command := [.endAll .abandon]

/-- Four registrations are settled, once each and three of them one within the other: by a
success, by a failure, under the failing policy and under the abandoning one. -/
theorem settled_at_most_once_quarrel :
    let machine := (idle .editor (quarrel ++ aftermath)).after 26
    machine.stack = [] ∧
      (machine.book.map fun entry => (entry.id, entry.started, entry.endings))
        = [("a", [(.success none, quarreller.onSuccess)], [.answered (.success none)]),
          ("b", [(.failure ⟨"no such name", []⟩, avenger.onFailure)],
            [.answered (.failure ⟨"no such name", []⟩)]),
          ("c", [(.failure ⟨"connection closed", []⟩, .report)], [.dismissed .fail]),
          ("d", [], [.dismissed .abandon])] ∧
      machine.router.log
        = [.succeeded "quarreller" none,
          .nested .done ["a", "b", "c"],
          .shown "right" ⟨"no such name", []⟩,
          .failed "avenger" ⟨"no such name", []⟩,
          .notice (.unknownResponse "a"),
          .nested (.refused (.idUnknown "a")) ["a", "b", "c"],
          .notice (.ended "c" "left" .fail),
          .failed "late" ⟨"connection closed", []⟩,
          .busyStop "left",
          .nested (.count 1) ["a", "b"],
          .busyStop "right",
          .nested .done ["a"],
          .nested (.refused (.idTaken "a")) ["a"],
          .busyStop "left",
          .notice (.ended "d" "right" .abandon),
          .busyStop "right"] ∧
      (performed .editor quarrel).ids = ["d"] ∧
      (∀ count, ((idle .editor (quarrel ++ aftermath)).after count).Tallies) ∧
      ∃ count,
        ((idle .editor (quarrel ++ aftermath)).after count).router = performed .editor quarrel ∧
        ((idle .editor (quarrel ++ aftermath)).after count).stack = [.queue aftermath] ∧
        (∀ id, id ∈ (performed .editor quarrel).ids ↔
          ∃ entry ∈ ((idle .editor (quarrel ++ aftermath)).after count).book,
            entry.id = id ∧ entry.endings = []) ∧
        ∀ id ∈ (performed .editor quarrel).ids, ∀ outcome,
          ((performed .editor quarrel).perform (.route ⟨id, outcome⟩)).2 = .done := by
  intro machine
  have hids : (performed .editor quarrel).ids = ["d"] := by decide +kernel
  exact ⟨rfl, rfl, rfl, hids, settled_at_most_once .editor quarrel aftermath⟩

end Machine

end ReplLink.Routing
