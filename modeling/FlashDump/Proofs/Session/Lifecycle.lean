import FlashDump.Proofs.Session.Steps

/-!
# The life of a window

A region of memory is alive from the event that grants it to the event that releases it.
`HardwareEvent.alive?` follows the events of a trace.  It has no answer to an event that grants
a region while one is alive, or that releases one while none is.

A session has at most the one region that its chipset calls its window.  Each step takes the
region from before the step to the one after it (`Session.turn_alive`), and so does a run
(`play_alive`).  At the end the window is let go, so nothing is left alive.

`Session.turn_window` says what a single step does to the window, and what it does not do to the
machine.  `Session.transcript_lifecycle` puts the two together, for any machine and any steps.
-/

namespace FlashDump

open FlashDump.Register

/-! ## Regions -/

namespace HardwareEvent

/-- The region that is alive after an event, as base and length, if the event may happen. -/
def alive? : Option (Nat × Nat) → HardwareEvent → Option (Option (Nat × Nat))
  | none, .map base length true => some (some (base, length))
  | some _, .map _ _ true => none
  | some _, .unmap => some none
  | none, .unmap => none
  | region, _ => some region

/-- Whether an event grants a region. -/
def grants : HardwareEvent → Bool
  | .map _ _ granted => granted
  | _ => false

/-- Whether an event releases a region. -/
def releases : HardwareEvent → Bool
  | .unmap => true
  | _ => false

/-- Whether an event has to do with regions. -/
def remaps : HardwareEvent → Bool
  | .map _ _ _ | .unmap => true
  | _ => false

variable {events : List HardwareEvent} {region region' : Option (Nat × Nat)}

theorem foldlM_alive?_of_remaps (other : ∀ event ∈ events, event.remaps = false)
    (region : Option (Nat × Nat)) : events.foldlM alive? region = some region := by
  induction events with
  | nil => rfl
  | cons event events ih =>
      have kept : alive? region event = some region := by
        cases event with
        | config width address value => cases region <;> rfl
        | access a => cases region <;> rfl
        | map base length granted => cases other _ List.mem_cons_self
        | unmap => cases other _ List.mem_cons_self
      rw [List.foldlM_cons, kept]
      exact ih fun event member => other event (List.mem_cons_of_mem _ member)

/-- What is granted is released or still alive. -/
theorem countP_of_alive (run : events.foldlM alive? region = some region') :
    events.countP grants + region.toList.length
      = events.countP releases + region'.toList.length := by
  induction events generalizing region with
  | nil =>
      obtain rfl : region = region' := Option.some.inj run
      rfl
  | cons event events ih =>
      rw [List.foldlM_cons] at run
      obtain ⟨next, first, rest⟩ := Option.bind_eq_some_iff.1 run
      have counted := ih rest
      have step : (if grants event then 1 else 0) + region.toList.length
          = (if releases event then 1 else 0) + next.toList.length := by
        cases event with
        | config width address value => cases region <;> cases first <;> rfl
        | access a => cases region <;> cases first <;> rfl
        | map base length granted => cases granted <;> cases region <;> cases first <;> rfl
        | unmap =>
            cases region
            · cases first
            · cases first; rfl
      rw [List.countP_cons, List.countP_cons]
      omega

/-- A trace that may happen may happen up to any point. -/
theorem alive_of_prefix {part trace : List HardwareEvent} (point : part <+: trace)
    (run : trace.foldlM alive? region = some region') :
    ∃ between, part.foldlM alive? region = some between := by
  obtain ⟨rest, rfl⟩ := point
  rw [List.foldlM_append] at run
  obtain ⟨between, first, -⟩ := Option.bind_eq_some_iff.1 run
  exact ⟨between, first⟩

end HardwareEvent

open HardwareEvent

/-- The region of a window. -/
def windowRegion (window : Option (BitVec 32)) : Option (Nat × Nat) :=
  window.map fun base => (base.toNat, windowSize)

theorem Chipset.foldlM_releaseEvents (c : Chipset) :
    c.releaseEvents.foldlM alive? (windowRegion c.window) = some none := by
  obtain ⟨family, id, window, limit⟩ := c
  cases window <;> rfl

theorem Machine.foldlM_mapEvents (m : Machine) (raw : BitVec 32) :
    (m.mapEvents raw).foldlM alive? none = some (windowRegion (m.mapWindow raw)) := by
  rw [mapEvents, mapWindow]
  cases rcbaEnabled raw with
  | false => rfl
  | true => cases m.mapperRefuses <;> rfl

/-- A request succeeds if it leaves a window. -/
theorem Machine.mapAnswer_eq_ok_iff (m : Machine) (raw : BitVec 32) :
    m.mapAnswer raw = .ok ↔ (m.mapWindow raw).isSome = true := by
  rw [mapAnswer, mapResult, mapWindow]
  cases rcbaEnabled raw with
  | false => simp
  | true => cases m.mapperRefuses <;> simp

theorem Machine.remaps_mapLook (m : Machine) (rcba : Option (BitVec 32)) :
    ∀ event ∈ m.mapLook rcba, event.remaps = false := by
  cases rcba with
  | some raw => exact fun _ member => nomatch member
  | none =>
      intro event member
      rw [List.mem_singleton.1 member]
      rfl

theorem Machine.controller_afterMap (m : Machine) (raw : BitVec 32) :
    (m.afterMap raw).controller = m.controller ∧ (m.afterMap raw).config = m.config ∧
      (m.afterMap raw).mapperRefuses = m.mapperRefuses := by
  rw [afterMap]
  split <;> exact ⟨rfl, rfl, rfl⟩

/-! ## Steps -/

/-- The window after a step that maps it or releases it. -/
def Machine.remapped? (m : Machine) : Step → Option (Option (BitVec 32))
  | .map rcba => some (m.mapWindow (m.mapWord rcba))
  | .unmap => some none
  | _ => none

theorem Machine.remapped?_congr {m m' : Machine} (config : m'.config = m.config)
    (refuses : m'.mapperRefuses = m.mapperRefuses) : m'.remapped? = m.remapped? := by
  funext step
  cases step with
  | map rcba =>
      simp only [remapped?, mapWindow, mapWord, bridgeWord, config, refuses]
      rfl
  | _ => rfl

namespace Session

/-- The hardware has a recorder that is switched on, and nothing is recorded yet. -/
def Watched (s : Session) : Prop := s.context.hardware = .start true s.machine

variable {s s' : Session} {step : Step}

/-- What a step records is all that its turn shows. -/
theorem turn_of_record (watched : s.Watched) {answer : Answer} {events : List HardwareEvent}
    (ok : s.step step = .ok (answer, s'))
    (record : s'.context.hardware = s.context.hardware.after s'.machine events) :
    s.turn step = (⟨.ok answer, events⟩, s'.withHardware (.start true s'.machine)) := by
  have recorded : s'.context.hardware = ⟨s'.machine, true, events.toArray⟩ := by
    rw [record, show s.context.hardware = .start true s.machine from watched]
    simp [Recorded.after, Recorded.start]
  rw [turn_of_ok ok, takeEvents, recorded]
  rfl

/-- What a turn has to do with the window, and with the rest of the machine. -/
structure WindowTurn (s : Session) (step : Step) (t : Turn) (s' : Session) : Prop where
  config : s'.machine.config = s.machine.config
  mapperRefuses : s'.machine.mapperRefuses = s.machine.mapperRefuses
  /-- The window that is mapped is released first, and then the request is made.  There is none
  if the address is not enabled. -/
  map : ∀ rcba, step = .map rcba →
    t = ⟨.ok (s.machine.mapAnswer (s.machine.mapWord rcba)),
        s.machine.mapLook rcba
          ++ (s.chipset.releaseEvents ++ s.machine.mapEvents (s.machine.mapWord rcba))⟩ ∧
      s'.chipset.window = s.machine.mapWindow (s.machine.mapWord rcba) ∧
      (t.answer = .ok .ok ↔ s'.chipset.isMapped = true) ∧
      s'.machine = s.machine.afterMap (s.machine.mapWord rcba)
  unmap : step = .unmap →
    t = ⟨.ok .ok, s.chipset.releaseEvents⟩ ∧ s'.chipset.window = none ∧ s'.machine = s.machine
  /-- Neither a step that fails nor one that succeeds changes the controller. -/
  controller : step.remaps = true → s'.machine.controller = s.machine.controller
  steady : step.remaps = false →
    s'.chipset.window = s.chipset.window ∧ s'.machine.requests = s.machine.requests ∧
      ∀ event ∈ t.events, event.remaps = false

theorem windowTurn_of_misuse {misuse : Misuse} (bad : s.step step = .error misuse) :
    s.WindowTurn step ⟨.error misuse, []⟩ s where
  config := rfl
  mapperRefuses := rfl
  map rcba same := by
    subst same
    cases bad
  unmap same := by
    subst same
    cases bad
  controller _ := rfl
  steady _ := ⟨rfl, rfl, fun _ member => nomatch member⟩

theorem windowTurn_of_steady {place : Width → Nat → Prop} {events : List HardwareEvent}
    (other : step.remaps = false) (steady : s.Steady place s' events) (answer : Answer) :
    s.WindowTurn step ⟨.ok answer, events⟩ (s'.withHardware (.start true s'.machine)) where
  config := by
    change s'.machine.config = _
    rw [steady.rest]
  mapperRefuses := by
    change s'.machine.mapperRefuses = _
    rw [steady.rest]
  map rcba same := by
    subst same
    cases other
  unmap same := by
    subst same
    cases other
  controller remaps := absurd (remaps.symm.trans other) (by decide)
  steady _ := by
    refine ⟨steady.window, ?_, ?_⟩
    · change s'.machine.requests = _
      rw [steady.rest]
    · intro event member
      rcases steady.visible event member with ⟨_, _, _, rfl⟩ | ⟨_, rfl, _⟩ <;> rfl

theorem windowTurn_of_map (s : Session) (rcba : Option (BitVec 32)) (log : Log.Logger) :
    s.WindowTurn (.map rcba)
      ⟨.ok (s.machine.mapAnswer (s.machine.mapWord rcba)),
        s.machine.mapLook rcba
          ++ (s.chipset.releaseEvents ++ s.machine.mapEvents (s.machine.mapWord rcba))⟩
      ⟨{ s.chipset with window := s.machine.mapWindow (s.machine.mapWord rcba) },
        ⟨.start true (s.machine.afterMap (s.machine.mapWord rcba)), log⟩⟩ where
  config := (Machine.controller_afterMap s.machine _).2.1
  mapperRefuses := (Machine.controller_afterMap s.machine _).2.2
  map rcba' same := by
    cases same
    refine ⟨rfl, rfl, ?_, rfl⟩
    exact (Except.ok.injEq _ _).to_iff.trans (s.machine.mapAnswer_eq_ok_iff _)
  unmap same := nomatch same
  controller _ := (Machine.controller_afterMap s.machine _).1
  steady other := nomatch other

theorem windowTurn_of_unmap (s : Session) :
    s.WindowTurn .unmap ⟨.ok .ok, s.chipset.releaseEvents⟩
      ⟨{ s.chipset with window := none }, ⟨.start true s.machine, s.context.log⟩⟩ where
  config := rfl
  mapperRefuses := rfl
  map _ same := nomatch same
  unmap _ := ⟨rfl, rfl, rfl⟩
  controller _ := rfl
  steady other := nomatch other

theorem turn_window (watched : s.Watched) (step : Step) :
    s.WindowTurn step (s.turn step).1 (s.turn step).2 ∧ (s.turn step).2.Watched := by
  cases remaps : step.remaps with
  | true =>
      cases step with
      | map rcba =>
          obtain ⟨log, mapped⟩ := s.map_eq rcba
          have ok : s.step (.map rcba) = .ok _ := congrArg Except.ok mapped
          rw [turn_of_record watched ok rfl]
          exact ⟨windowTurn_of_map s rcba log, rfl⟩
      | unmap =>
          have ok : s.step .unmap = .ok (.ok, _) := congrArg (fun s => Except.ok (Answer.ok, s)) s.unmap_eq
          rw [turn_of_record watched ok rfl]
          exact ⟨windowTurn_of_unmap s, rfl⟩
      | _ => cases remaps
  | false =>
      cases made : s.step step with
      | error misuse =>
          rw [turn_of_misuse made]
          exact ⟨windowTurn_of_misuse made, watched⟩
      | ok after =>
          obtain ⟨answer, s'⟩ := after
          obtain ⟨events, steady⟩ := step_steady remaps made
          rw [turn_of_record watched made steady.record]
          exact ⟨windowTurn_of_steady remaps steady answer, rfl⟩

/-- A turn takes the window that is alive to the one that is alive after it. -/
theorem WindowTurn.alive {t : Turn} (turned : s.WindowTurn step t s') :
    t.events.foldlM alive? (windowRegion s.chipset.window)
      = some (windowRegion s'.chipset.window) := by
  cases remaps : step.remaps with
  | true =>
      cases step with
      | map rcba =>
          obtain ⟨rfl, window, -⟩ := turned.map rcba rfl
          rw [window, List.foldlM_append,
            foldlM_alive?_of_remaps (s.machine.remaps_mapLook rcba)]
          change (s.chipset.releaseEvents ++ _).foldlM alive? _ = _
          rw [List.foldlM_append, s.chipset.foldlM_releaseEvents]
          exact s.machine.foldlM_mapEvents _
      | unmap =>
          obtain ⟨rfl, window, -⟩ := turned.unmap rfl
          rw [window]
          exact s.chipset.foldlM_releaseEvents
      | _ => cases remaps
  | false =>
      obtain ⟨window, -, other⟩ := turned.steady remaps
      rw [window]
      exact foldlM_alive?_of_remaps other _

/-- The window after a turn is the one that its step mapped or released, or the one before. -/
theorem WindowTurn.window {t : Turn} (turned : s.WindowTurn step t s') :
    s'.chipset.window = (s.machine.remapped? step).getD s.chipset.window := by
  cases remaps : step.remaps with
  | true =>
      cases step with
      | map rcba => exact (turned.map rcba rfl).2.1
      | unmap => exact (turned.unmap rfl).2.1
      | _ => cases remaps
  | false =>
      rw [(turned.steady remaps).1]
      cases step with
      | map rcba => cases remaps
      | unmap => cases remaps
      | _ => rfl

/-! ## Runs -/

theorem play_append (s : Session) (before after : List Step) :
    s.play (before ++ after)
      = ((s.play before).1 ++ ((s.play before).2.play after).1, ((s.play before).2.play after).2) := by
  induction before generalizing s with
  | nil => rfl
  | cons step before ih =>
      rw [List.cons_append, play, play]
      dsimp only
      rw [ih]
      rfl

theorem length_play (s : Session) (steps : List Step) : (s.play steps).1.length = steps.length := by
  induction steps generalizing s with
  | nil => rfl
  | cons step steps ih =>
      rw [play]
      dsimp only
      rw [List.length_cons, List.length_cons, ih]

/-- What holds of a session after steps, if it was `first` before them. -/
structure WindowRun (first : Session) (steps : List Step) (turns : List Turn) (s : Session) : Prop where
  watched : s.Watched
  config : s.machine.config = first.machine.config
  mapperRefuses : s.machine.mapperRefuses = first.machine.mapperRefuses
  alive : (turns.flatMap Turn.events).foldlM alive? (windowRegion first.chipset.window)
    = some (windowRegion s.chipset.window)
  window : s.chipset.window
    = (steps.filterMap first.machine.remapped?).getLast?.getD first.chipset.window

theorem play_window (watched : s.Watched) (steps : List Step) :
    s.WindowRun steps (s.play steps).1 (s.play steps).2 := by
  induction steps generalizing s with
  | nil => exact ⟨watched, rfl, rfl, rfl, rfl⟩
  | cons step steps ih =>
      obtain ⟨turned, watched⟩ := turn_window watched step
      have rest := ih watched
      have alive := rest.alive
      have window := rest.window
      rw [Machine.remapped?_congr turned.config turned.mapperRefuses, turned.window] at window
      rw [play]
      dsimp only
      refine ⟨rest.watched, rest.config.trans turned.config,
        rest.mapperRefuses.trans turned.mapperRefuses, ?_, ?_⟩
      · rw [List.flatMap_cons, List.foldlM_append, turned.alive]
        exact alive
      · rw [window]
        cases remapped : s.machine.remapped? step with
        | none => rw [List.filterMap_cons_none remapped, Option.getD_none]
        | some after =>
            rw [List.filterMap_cons_some remapped, List.getLast?_cons, Option.getD_some,
              Option.getD_some]

/-! ## Transcripts -/

end Session

/-- All that is done to the hardware, from detecting the chipset to letting go of it. -/
def Transcript.trace (t : Transcript) : List HardwareEvent :=
  t.probeEvents ++ t.turns.flatMap Session.Turn.events ++ t.closing

/-- What a transcript tells of the window, if `first` is the session that its steps begin with. -/
structure Transcript.Lifecycle (t : Transcript) (first : Session) (steps : List Step) : Prop where
  /-- At every point what is granted is released, but for at most one region that is alive. -/
  alive : ∀ part, part <+: t.trace → ∃ region : Option (Nat × Nat),
    part.foldlM alive? none = some region ∧
      part.countP grants = part.countP releases + region.toList.length
  /-- At the end nothing is alive. -/
  closed : t.trace.foldlM alive? none = some none ∧ t.trace.countP grants = t.trace.countP releases
  turns : ∀ before step after, steps = before ++ step :: after →
    ∃ turn s', t.turns[before.length]? = some turn ∧
      (first.play before).2.turn step = (turn, s') ∧
      (first.play before).2.WindowTurn step turn s'
  /-- The window is that of the last step that mapped or released it, if there is one, and it is
  the region that is alive. -/
  window : ∀ before after, steps = before ++ after →
    (first.play before).2.chipset.window
        = (before.filterMap first.machine.remapped?).getLast?.getD none ∧
      (t.probeEvents ++ (first.play before).1.flatMap Session.Turn.events).foldlM alive? none
        = some (windowRegion (first.play before).2.chipset.window)

namespace Session

section Detected

variable {m : Machine} {verbosity : Log.Verbosity} {chipset : Chipset}
  {context : Context RecordedMachine} (found : start m true verbosity = (.ok chipset, context))

include found

/-- Detecting the chipset is recorded apart from the steps. -/
theorem take_of_start : context.hardware.take = (m.identityEvents, .start true m) := by
  rw [(detected_of_start found).2.2]
  simp [Recorded.take, Recorded.after, Recorded.start]

theorem transcript_eq (steps : List Step) :
    ∃ log, transcript m true verbosity steps
      = ⟨.ok chipset, m.identityEvents, (play ⟨chipset, ⟨.start true m, context.log⟩⟩ steps).1,
          (play ⟨chipset, ⟨.start true m, context.log⟩⟩ steps).2.unmap.takeEvents.1, log⟩ := by
  rw [transcript, found]
  dsimp only
  rw [take_of_start found]
  exact ⟨_, rfl⟩

omit found in
/-- Letting go of a chipset is a step that releases the window. -/
theorem closing_of_watched {s : Session} (watched : s.Watched) :
    s.unmap.takeEvents.1 = s.chipset.releaseEvents := by
  obtain ⟨turned, -⟩ := turn_window watched .unmap
  exact congrArg Turn.events (turned.unmap rfl).1

/-- However the steps are mixed, the window of a session is the one region that is alive, and
letting go of the chipset releases it. -/
theorem transcript_lifecycle (steps : List Step) :
    (transcript m true verbosity steps).Lifecycle ⟨chipset, ⟨.start true m, context.log⟩⟩ steps := by
  obtain ⟨log, eq⟩ := transcript_eq found steps
  have watched : Watched ⟨chipset, ⟨.start true m, context.log⟩⟩ := rfl
  have bare : (⟨chipset, ⟨.start true m, context.log⟩⟩ : Session).chipset.window = none :=
    (detected_of_start found).2.1
  generalize (⟨chipset, ⟨.start true m, context.log⟩⟩ : Session) = first at eq watched bare ⊢
  have quiet : ∀ event ∈ m.identityEvents, event.remaps = false := by
    simp [Machine.identityEvents, Machine.bridgeEvent, HardwareEvent.remaps]
  have upTo (before : List Step) :
      (m.identityEvents ++ (first.play before).1.flatMap Turn.events).foldlM alive? none
        = some (windowRegion (first.play before).2.chipset.window) := by
    have alive := (play_window watched before).alive
    rw [bare] at alive
    rw [List.foldlM_append, foldlM_alive?_of_remaps quiet]
    exact alive
  have closed : (transcript m true verbosity steps).trace.foldlM alive? none = some none := by
    rw [eq, Transcript.trace, closing_of_watched (play_window watched steps).watched,
      List.foldlM_append, upTo]
    exact Chipset.foldlM_releaseEvents _
  refine ⟨?_, ⟨closed, countP_of_alive closed⟩, ?_, ?_⟩
  · intro part point
    obtain ⟨region, run⟩ := alive_of_prefix point closed
    exact ⟨region, run, countP_of_alive run⟩
  · rintro before step after rfl
    refine ⟨_, _, ?_, rfl, (turn_window (play_window watched before).watched step).1⟩
    rw [eq]
    dsimp only
    rw [play_append, List.getElem?_append_right (Nat.le_of_eq (length_play _ _)), length_play,
      Nat.sub_self]
    rfl
  · rintro before after rfl
    have window := (play_window watched before).window
    rw [bare] at window
    rw [eq]
    exact ⟨window, upTo before⟩

end Detected

/-- A window, then an address that is not enabled, then two windows one after the other. -/
theorem transcript_lifecycle_of_remaps :
    (transcript (.intel 0x2912 0x3800 0) true .off
        [.map (some 0xfed1c001), .map (some 0xfed1c000), .map (some 0xfed20001), .map (some 0xfed1ffff)]).Lifecycle
      ⟨⟨Catalogue.ich9, ⟨0x8086, 0x2912, 0⟩, none, .unbounded⟩,
        ⟨.start true (.intel 0x2912 0x3800 0), .empty .off⟩⟩
      [.map (some 0xfed1c001), .map (some 0xfed1c000), .map (some 0xfed20001), .map (some 0xfed1ffff)] := by
  have known : Catalogue.resolve (Machine.intel 0x2912 0x3800 0).identity = .ok Catalogue.ich9 := by
    rw [Machine.identity_intel_ich9]
    rfl
  have found : start (.intel 0x2912 0x3800 0) true .off = _ := start_of_known known
  rw [Machine.identity_intel_ich9] at found
  exact transcript_lifecycle found _

end Session

end FlashDump
