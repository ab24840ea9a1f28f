import FlashDump.Proofs.Machine.Alike
import FlashDump.Proofs.Sequencer.Limit
import FlashDump.Proofs.Sequencer.Polls

/-!
# What a poll limit decides

On any device a poll limit is exact: a cycle has all the polls of the limit and not one more, and
a read ends whatever the device answers.  Without a limit a read ends just if its cycles do.
Both are in `Sequencer.read_limit_exact`, together with what they come to on a simulated machine.
There all cycles take the same number of polls, so it is the first one that times out or none
does (`Chipset.readFlash_timeout_iff`).
-/

namespace FlashDump

open FlashDump.Register

/-! ## No limit -/

namespace Sequencer

variable {σ τ : Type} {q : Sequencer σ} {o : Observer τ}

/-- A read without a limit never times out. -/
theorem read_patient_ne_timeout (common : q.layout.Common) {r : Request} (accepted : r.Accepted)
    (patience : Nat) (s : σ) (t : τ) (address polls : Nat) :
    ((q.patient patience).read o r s t).1 ≠ some (.error (.timeout address polls)) := by
  have steps : (q.patient patience).layout.Common := common
  obtain ⟨status, passages, result, s', t', -, run, -, footprint⟩ :=
    read_on steps id o accepted s [] t
  rw [run]
  cases busy : status.getLsbD 5 with
  | true => simp [(footprint.busy busy).2.1]
  | false =>
      obtain ⟨ending, rfl, delivered | ⟨before, last, u, abandoned⟩⟩ :=
        footprint.delivered_or_abandoned busy
      · simp [delivered.result]
      · have unfinished : (Ending.unfinished, u) = (ending, t') := abandoned.gaveUp
        rw [Prod.mk.injEq] at unfinished
        simp [← unfinished.1, Ending.result]

end Sequencer

/-! ## The simulated machine -/

namespace Chipset

variable {τ : Type} {c : Chipset} {s : RecordedMachine}

/-- Cycles of a machine all take the same number of polls. -/
theorem readFlash_timeout_iff (known : c.family ∈ Catalogue.families) {polls : Nat}
    (limited : c.pollLimit = .iterations polls)
    (place : s.state.controller.spiBar = c.layout.spiBar)
    (free : s.state.controller.hsfs.spiCycleInProgress = false) (o : Observer τ) {r : Request}
    (accepted : r.Accepted) (some_block : 0 < r.size) (t : τ) (address count : Nat) :
    (c.readFlash recordedPlatform o r s t).1 = some (.error (.timeout address count))
      ↔ (address = r.start ∧ count = max polls 1) ∧
        (s.state.controller.stuck = true ∨ max polls 1 ≤ s.state.controller.delay) := by
  have drives := drives_of_known known place
  have limit : ((c.sequencer recordedPlatform s).onDevice Controller.mmio).limit
      = .iterations polls := limited
  have budget : ((c.sequencer recordedPlatform s).onDevice Controller.mmio).budget
      = max polls 1 := by rw [Sequencer.budget, limit]
  cases intime : s.state.controller.endsWithin (max polls 1) with
  | true =>
      rw [Controller.endsWithin, Bool.and_eq_true, Bool.not_eq_true', decide_eq_true_eq] at intime
      have tolerated : c.pollLimit.Tolerates s.state.controller.delay := by
        rw [limited]
        exact intime.2
      obtain ⟨hsfs, s', run⟩ := readFlash_of_idle known place free intime.1 tolerated o accepted t
      rw [run]
      constructor
      · intro timedOut
        cases timedOut
      · rintro ⟨-, stuck | late⟩
        · exact absurd stuck (Bool.eq_false_iff.1 intime.1)
        · exact absurd late (Nat.not_le.2 intime.2)
  | false =>
      have never := intime
      rw [← budget] at never
      obtain ⟨_, _, read⟩ := Sequencer.read_of_late drives limit never free o accepted some_block t
      rw [result_readFlash, read, budget]
      rw [Controller.endsWithin, Bool.and_eq_false_iff, Bool.not_eq_false', decide_eq_false_iff_not,
        Nat.not_lt] at intime
      constructor
      · intro timedOut
        simp only [Option.some.injEq, Except.error.injEq, ChipsetError.timeout.injEq] at timedOut
        exact ⟨⟨timedOut.1.symm, timedOut.2.symm⟩, intime⟩
      · rintro ⟨⟨rfl, rfl⟩, -⟩
        rfl

end Chipset

/-- A poll limit is exact.  Each cycle has all its polls and not one more, and the first that is
not done by then ends the read.  Without a limit a read ends just if its cycles do. -/
theorem Sequencer.read_limit_exact {σ τ : Type} (f : Family) (m : Mmio σ) (o : Observer τ)
    (r : Request) (accepted : r.Accepted) (s : σ) (t : τ) :
    (∀ polls patience, ∃ status passages result s' t',
      Sequencer.read ⟨f.layout, m, .iterations polls, patience⟩ o r s t = (result, s', t') ∧
      Sequencer.read ⟨f.layout, m.recorded id, .iterations polls, patience⟩ o r (.start true s) t
        = (result,
            ⟨s', true, (Access.read .w16 (f.layout.offset Offset.hsfs) status
              :: passages.flatMap (Passage.accesses f.layout r.blockSize)).toArray⟩, t') ∧
      WithinLimit f.layout o r t (max polls 1) status passages result t') ∧
    (∀ patience address polls,
      (Sequencer.read ⟨f.layout, m, .unbounded, patience⟩ o r s t).1
        ≠ some (.error (.timeout address polls))) ∧
    (Terminates ⟨f.layout, m, .unbounded, 0⟩ o r s t ↔
      ∀ e, ReadStarts ⟨f.layout, m, .unbounded, 0⟩ o r s t e →
        ∃ polls, (pollStatus ⟨f.layout, m, .unbounded, 0⟩ polls e).getLsbD 0 = true) ∧
    (∀ (c : Chipset) (machine : RecordedMachine) (polls : Nat), c.family ∈ Catalogue.families →
      c.pollLimit = .iterations polls →
      machine.state.controller.spiBar = c.layout.spiBar →
      machine.state.controller.hsfs.spiCycleInProgress = false → 0 < r.size →
      ∀ address count,
        (c.readFlash recordedPlatform o r machine t).1 = some (.error (.timeout address count))
          ↔ (address = r.start ∧ count = max polls 1) ∧
            (machine.state.controller.stuck = true
              ∨ max polls 1 ≤ machine.state.controller.delay)) := by
  have common : (⟨f.layout, m, .unbounded, 0⟩ : Sequencer σ).layout.Common := f.layout_common
  refine ⟨?_, ?_, ?_, ?_⟩
  · intro polls patience
    have steps : (⟨f.layout, m, .iterations polls, patience⟩ : Sequencer σ).layout.Common := common
    obtain ⟨status, passages, result, s', t', -, plain, recorded, footprint⟩ :=
      Sequencer.read_on steps id o accepted s [] t
    refine ⟨status, passages, result, s', t', plain, recorded.trans ?_, footprint.withinLimit rfl⟩
    rw [List.nil_append, List.map_id]
    rfl
  · intro patience
    exact read_patient_ne_timeout common accepted patience s t
  · exact terminates_iff common o accepted s t
  · intro c machine polls known limited place free some_block
    exact Chipset.readFlash_timeout_iff known limited place free o accepted some_block t

/-- A limit of no polls is one of one poll.  A machine that hides the end of a cycle for two polls
is too late for a limit of two. -/
theorem Sequencer.read_limit_exact_of_delay :
    (∃ status passages result s' t',
      Sequencer.read ⟨Catalogue.ich9.layout, .constant 0, .iterations 0, 7⟩
          (Callbacks.observer ⟨fun _ => true, none, true⟩) ⟨64, 8, 4⟩ () [] = (result, s', t') ∧
      Sequencer.read ⟨Catalogue.ich9.layout, (Mmio.constant 0).recorded id, .iterations 0, 7⟩
          (Callbacks.observer ⟨fun _ => true, none, true⟩) ⟨64, 8, 4⟩ (.start true ()) []
        = (result,
            ⟨s', true, (Access.read .w16 0x3804 status
              :: passages.flatMap (Passage.accesses Catalogue.ich9.layout 4)).toArray⟩, t') ∧
      WithinLimit Catalogue.ich9.layout (Callbacks.observer ⟨fun _ => true, none, true⟩) ⟨64, 8, 4⟩
        [] 1 status passages result t') ∧
    (Chipset.readFlash ⟨Catalogue.ich9, ⟨0x8086, 0x2912, 0⟩, none, .iterations 2⟩ recordedPlatform
        (Callbacks.observer ⟨fun _ => true, none, true⟩) ⟨64, 8, 4⟩
        (.start true ⟨.empty, { Controller.fresh 0x3800 (.pattern 8 1 0 0) with delay := 2 },
          false, false, #[]⟩) []).1
      = some (.error (.timeout 64 2)) := by
  obtain ⟨limited, -, -, machine⟩ := read_limit_exact Catalogue.ich9 (.constant 0)
    (Callbacks.observer ⟨fun _ => true, none, true⟩) ⟨64, 8, 4⟩
    ⟨by decide, by decide, by decide, by decide, by decide⟩ () []
  refine ⟨limited 0 7, ?_⟩
  refine (machine _ _ 2 (by simp [Catalogue.families]) rfl rfl ?_ (by decide) 64 2).2
    ⟨⟨rfl, rfl⟩, .inr (by decide)⟩
  rw [Controller.hsfs]
  simp only [Recorded.start, Controller.fresh, RegisterFile.load_zero]
  rfl

end FlashDump
