import FlashDump.Proofs.Machine.Alike
import FlashDump.Proofs.Session.Steps

/-!
# Reads and the history of a session

A session is `Reachable` if a chipset was detected and any steps were made since.  What its
registers hold can be anything that the steps left there: the status of a cycle that failed,
the bit that started a cycle which never ended, the data of an earlier block.

A read does not depend on any of that (`readFlash_ignores_history`).  It looks at one register
before it starts a cycle, and at one bit of that.
-/

namespace FlashDump

namespace Session

/-- The sessions that steps lead to, once a chipset is detected. -/
inductive Reachable : Session → Prop where
  | detected {machine : Machine} {recording : Bool} {verbosity : Log.Verbosity} {chipset : Chipset}
      {context : Context RecordedMachine}
      (found : start machine recording verbosity = (.ok chipset, context)) :
      Reachable (takeEvents ⟨chipset, context⟩).2
  | turn {s : Session} (before : Reachable s) (step : Step) : Reachable (s.turn step).2

variable {s s' : Session}

theorem Reachable.play (reached : s.Reachable) (steps : List Step) : (s.play steps).2.Reachable := by
  induction steps generalizing s with
  | nil => exact reached
  | cons step steps ih => exact ih (reached.turn step)

/-! ## The family -/

theorem step_family {step : Step} {answer : Answer} (ok : s.step step = .ok (answer, s')) :
    s'.chipset.family = s.chipset.family := by
  cases remaps : step.remaps with
  | false =>
      obtain ⟨events, steady⟩ := step_steady remaps ok
      exact steady.family
  | true =>
      cases step with
      | map rcba =>
          obtain ⟨log, mapped⟩ := s.map_eq rcba
          have made : s.map rcba = (answer, s') := Except.ok.inj ok
          rw [mapped, Prod.mk.injEq] at made
          rw [← made.2]
      | unmap =>
          cases ok
          rw [unmap_eq]
      | _ => cases remaps

theorem turn_family (s : Session) (step : Step) :
    (s.turn step).2.chipset.family = s.chipset.family := by
  cases made : s.step step with
  | error misuse => rw [turn_of_misuse made]
  | ok after =>
      have kept := step_family made
      rw [turn_of_ok made]
      exact kept

theorem Reachable.known (reached : s.Reachable) : s.chipset.family ∈ Catalogue.families := by
  induction reached with
  | detected found => exact (detected_of_start found).1
  | turn before step ih =>
      rw [turn_family]
      exact ih

/-! ## Reads -/

section Reads

variable (mapped : s.chipset.isMapped = true) (r : Request) (policy : Policy)

include mapped

theorem step_of_mapped : s.step (.readFlash r policy) = .ok (s.readFlash r policy) := by
  obtain ⟨base, held⟩ := Option.isSome_iff_exists.1 mapped
  rw [step, Session.mapped, held]

/-- A read changes the machine and not the chipset. -/
theorem turn_readFlash :
    (s.turn (.readFlash r policy)).2.chipset = s.chipset ∧
      (s.turn (.readFlash r policy)).2.machine
        = (s.chipset.readFlash recordedPlatform policy.observer r s.context.hardware
            (.empty, s.context.log)).2.1.state := by
  have made : s.step (.readFlash r policy)
      = .ok ((s.readFlash r policy).1, (s.readFlash r policy).2) := step_of_mapped mapped r policy
  rw [turn_of_ok made]
  exact ⟨rfl, rfl⟩

theorem kin_turn_readFlash :
    s.machine.controller.Kin (s.turn (.readFlash r policy)).2.machine.controller := by
  obtain ⟨accesses, accessed⟩ := accessed_of_reaches
    ((s.chipset.sequencer recordedPlatform s.context.hardware).read_reaches policy.observer r
      s.context.hardware (.empty, s.context.log))
  rw [(turn_readFlash mapped r policy).2]
  exact accessed.kin

end Reads

/-- A read gives the same in two sessions, whatever answers it gets, and leaves SCIP alone in
both. -/
structure SameRead (s s' : Session) (r : Request) : Prop where
  /-- The result, what is delivered and the number of cycles are all in the answer. -/
  step : ∀ policy, ∃ answer t t',
    s.step (.readFlash r policy) = .ok (answer, t) ∧
    s'.step (.readFlash r policy) = .ok (answer, t') ∧
    t.machine.controller.hsfs.spiCycleInProgress = s.machine.controller.hsfs.spiCycleInProgress ∧
    t'.machine.controller.hsfs.spiCycleInProgress = s'.machine.controller.hsfs.spiCycleInProgress
  callbacks : ∀ (k : Callbacks) (told : List DeliveryEvent), ∃ result cycles told' e e',
    s.chipset.readFlash recordedPlatform k.observer r s.context.hardware told = (result, e, told') ∧
    s'.chipset.readFlash recordedPlatform k.observer r s'.context.hardware told
      = (result, e', told') ∧
    e.state.controller.cycles = s.machine.controller.cycles + cycles ∧
    e'.state.controller.cycles = s'.machine.controller.cycles + cycles ∧
    e.state.controller.hsfs.spiCycleInProgress = s.machine.controller.hsfs.spiCycleInProgress ∧
    e'.state.controller.hsfs.spiCycleInProgress = s'.machine.controller.hsfs.spiCycleInProgress

/-- What registers hold makes no difference to a read, whatever happened before, but for SCIP.
Neither does the family. -/
theorem readFlash_ignores_history (reached : s.Reachable) (reached' : s'.Reachable)
    (mapped : s.chipset.isMapped = true) (mapped' : s'.chipset.isMapped = true)
    (place : s.machine.controller.spiBar = s.chipset.layout.spiBar)
    (place' : s'.machine.controller.spiBar = s'.chipset.layout.spiBar)
    (alike : s.machine.controller.Alike s'.machine.controller)
    (limit : s'.chipset.pollLimit = s.chipset.pollLimit)
    (busy : s'.machine.controller.hsfs.spiCycleInProgress
      = s.machine.controller.hsfs.spiCycleInProgress) (r : Request) :
    s.SameRead s' r where
  step policy := by
    have nothing : (Delivery.empty, s.context.log).1 = (Delivery.empty, s'.context.log).1 := rfl
    obtain ⟨result, cycles, e, e', u, u', run, run', told, more, more'⟩ :=
      Chipset.readFlash_alike reached.known reached'.known place place' alike limit busy policy.blind r
        nothing
    have kept := Chipset.busy_readFlash reached.known place policy.observer r
      (Delivery.empty, s.context.log)
    have kept' := Chipset.busy_readFlash reached'.known place' policy.observer r
      (Delivery.empty, s'.context.log)
    rw [run] at kept
    rw [run'] at kept'
    have grown : e.state.controller.cycles - s.machine.controller.cycles = cycles := by
      rw [more]
      exact Nat.add_sub_cancel_left _ _
    have grown' : e'.state.controller.cycles - s'.machine.controller.cycles = cycles := by
      rw [more']
      exact Nat.add_sub_cancel_left _ _
    refine ⟨.delivered result u.1 cycles, { s with context := ⟨e, u.2⟩ },
      { s' with context := ⟨e', u'.2⟩ }, ?_, ?_, kept, kept'⟩
    · rw [step_of_mapped mapped, readFlash, run]
      simp only [grown]
    · rw [step_of_mapped mapped', readFlash, run', told]
      simp only [grown']
  callbacks k told := by
    have nothing : told = told := rfl
    obtain ⟨result, cycles, e, e', u, u', run, run', same, more, more'⟩ :=
      Chipset.readFlash_alike reached.known reached'.known place place' alike limit busy k.blind r
        nothing
    have kept := Chipset.busy_readFlash reached.known place k.observer r told
    have kept' := Chipset.busy_readFlash reached'.known place' k.observer r told
    rw [run] at kept
    rw [run'] at kept'
    subst same
    exact ⟨result, cycles, u, e, e', run, run', more, more', kept, kept'⟩

/-! ## A read after one that timed out -/

/-- The session that steps lead to on a machine whose chipset has the given family. -/
def ofSteps (m : Machine) (f : Family) (steps : List Step) : Session :=
  (play ⟨⟨f, m.identity, none, .unbounded⟩, ⟨.start false m, .empty .off⟩⟩ steps).2

theorem reachable_ofSteps {m : Machine} {f : Family} (known : Catalogue.resolve m.identity = .ok f)
    (steps : List Step) : (ofSteps m f steps).Reachable := by
  have found : start m false .off = _ := start_of_known known
  exact (Reachable.detected found).play steps

/-- The window is mapped, and two polls are the limit. -/
def impatient : List Step := [.map (some 0xfed1c001), .setPollLimit (.iterations 2)]

/-- The earlier read times out: its cycle is hidden for two polls. -/
theorem readFlash_ignores_history_of_timeout :
    (ofSteps (.intel 0x2912 0x3800 2) Catalogue.ich9 impatient).SameRead
      ((ofSteps (.intel 0x2810 0x3020 2) Catalogue.ich8 impatient).turn
        (.readFlash ⟨0, 8, 4⟩ ⟨fun _ => true, none, true⟩)).2 ⟨4, 4, 4⟩ := by
  have ich9 : Catalogue.resolve (Machine.intel 0x2912 0x3800 2).identity = .ok Catalogue.ich9 := by
    rw [Machine.identity_intel_ich9]
    rfl
  have ich8 : Catalogue.resolve (Machine.intel 0x2810 0x3020 2).identity = .ok Catalogue.ich8 := by
    rw [Machine.identity_intel_ich8]
    rfl
  have first := reachable_ofSteps ich9 impatient
  have second := reachable_ofSteps ich8 impatient
  have mapped : (ofSteps (.intel 0x2810 0x3020 2) Catalogue.ich8 impatient).chipset.isMapped := rfl
  have chipset := (turn_readFlash mapped ⟨0, 8, 4⟩ ⟨fun _ => true, none, true⟩).1
  have machine := (turn_readFlash mapped ⟨0, 8, 4⟩ ⟨fun _ => true, none, true⟩).2
  have kin := kin_turn_readFlash mapped ⟨0, 8, 4⟩ ⟨fun _ => true, none, true⟩
  have alike : (ofSteps (.intel 0x2912 0x3800 2) Catalogue.ich9 impatient).machine.controller.Alike
      (ofSteps (.intel 0x2810 0x3020 2) Catalogue.ich8 impatient).machine.controller :=
    ⟨fun _ => rfl, fun _ => rfl, rfl, rfl⟩
  have free (spiBar : Nat) :
      (Controller.fresh spiBar (.pattern 8 1 0 0)).hsfs.spiCycleInProgress = false := by
    rw [Controller.hsfs]
    simp only [Controller.fresh, RegisterFile.load_zero]
    rfl
  refine readFlash_ignores_history first (second.turn _) rfl ?_ rfl ?_ ?_ ?_ ?_ _
  · rw [chipset]
    exact mapped
  · rw [kin.spiBar, chipset]
    rfl
  · exact alike.kin (.refl _) kin
  · rw [chipset]
    rfl
  · rw [machine, Chipset.busy_readFlash second.known rfl]
    exact (free 0x3020).trans (free 0x3800).symm

end Session

end FlashDump
