import FlashDump.Chipset.Handle
import FlashDump.Machine.Basic
import FlashDump.Proofs.Machine.Block
import FlashDump.Proofs.Sequencer.Arguments
import FlashDump.Proofs.Sequencer.Calls
import FlashDump.Proofs.Sequencer.Projection

/-!
# A read on the simulated controller

A controller that is idle and ends its cycles in time is read without a failure.  The
calls that it makes to its observer are known beforehand (`Controller.calls`), but for
where the observer ends them.  `Sequencer.readBlocks_of_idle` is by induction on the
number of blocks, for any observer and any contents of the registers; what is passed on
from block to block is that the flash and the faults are the same (`Controller.Kin`).

`Chipset.readFlash_delivers` is the same for the machine of a chipset, in terms of what
callbacks are told.
-/

namespace FlashDump

open FlashDump.Register

/-! ## The blocks -/

/-- What HSFS holds. -/
def Controller.hsfs (c : Controller) : Hsfs :=
  Hsfs.decode (c.memory.load .w16 (c.spiBar + Offset.hsfs))

/-- The calls of a read of the blocks at the given addresses. -/
def Controller.calls (c : Controller) (blockSize : Nat) (addresses : List Nat) : List Call :=
  addresses.flatMap fun address =>
    Call.ofCycle address (c.errors.contains address)
      ++ [.block address (c.flash.slice address blockSize)]

theorem Controller.Kin.calls {c d : Controller} (kin : c.Kin d) (blockSize : Nat)
    (addresses : List Nat) : d.calls blockSize addresses = c.calls blockSize addresses := by
  simp only [Controller.calls, kin.errors, kin.flash]

/-- How a read ends if no cycle fails to end, by the last answer of its observer. -/
def Ending.ofAnswer : (yes : Bool) → Ending
  | true => .completed
  | false => .stopped

theorem Ending.result_ofAnswer (yes : Bool) : (ofAnswer yes).result = some (.ok ()) := by
  cases yes <;> rfl

namespace Sequencer

variable {τ : Type} {q : Sequencer Controller} {c : Controller}

theorem readBlocks_of_idle (drives : q.Drives c) (ends : c.stuck = false)
    (tolerated : c.delay < q.budget) (o : Observer τ) {words : Nat} (positive : 0 < words)
    (few : words ≤ fdataCount) (count : Nat) {address : Nat}
    (fits : address + count * (4 * words) ≤ flashAddressSpace) (t : τ) :
    ∃ d, c.Kin d ∧
      q.readBlocks o words count address c t
        = (.ofAnswer (o.hear (c.calls (4 * words) (.range' address count (4 * words)) ++ [.done]) t).1,
            d, (o.hear (c.calls (4 * words) (.range' address count (4 * words)) ++ [.done]) t).2) := by
  induction count generalizing c address t with
  | zero => exact ⟨c, .refl c, rfl⟩
  | succ count ih =>
      rw [Nat.succ_mul] at fits
      have inside : address < flashAddressSpace := by omega
      have rest_fits : address + 4 * words + count * (4 * words) ≤ flashAddressSpace := by omega
      obtain ⟨hsfs, d, polled, failed, collected, kin⟩ :=
        block_of_idle drives ends tolerated positive few inside
      have split : c.calls (4 * words) (.range' address (count + 1) (4 * words)) ++ [Call.done]
          = Call.ofCycle address (c.errors.contains address)
            ++ ([.block address (c.flash.slice address (4 * words))]
              ++ (c.calls (4 * words) (.range' (address + 4 * words) count (4 * words)) ++ [.done])) := by
        simp only [Controller.calls, List.range'_succ, List.flatMap_cons, List.append_assoc]
      rw [split]
      rw [← failed]
      cases acknowledged : o.hear (Call.ofCycle address hsfs.flashCycleError) t with
      | mk yes t' =>
          have told := (Observer.acknowledge_eq_hear o address hsfs t).trans acknowledged
          cases yes with
          | false =>
              rw [Observer.hear_append_of_false acknowledged, readBlocks_of_decline polled told]
              exact ⟨d, kin, rfl⟩
          | true =>
              rw [Observer.hear_append_of_true acknowledged]
              cases taken : o.hear [.block address (c.flash.slice address (4 * words))] t' with
              | mk yes t'' =>
                  have answered := (Observer.hear_block o address _ t').symm.trans taken
                  cases yes with
                  | false =>
                      rw [Observer.hear_append_of_false taken,
                        readBlocks_of_stop polled told collected answered]
                      exact ⟨d, kin, rfl⟩
                  | true =>
                      rw [Observer.hear_append_of_true taken,
                        readBlocks_of_block polled told collected answered, ← kin.calls]
                      obtain ⟨e, kin', rest⟩ := ih (drives.kin kin) (by rw [kin.stuck, ends])
                        (by rw [kin.delay]; exact tolerated) rest_fits t''
                      exact ⟨e, kin.trans kin', rest⟩

/-- What the controller hides at first is not whether it is busy. -/
theorem read_of_idle (drives : q.Drives c) (free : c.hsfs.spiCycleInProgress = false)
    (ends : c.stuck = false) (tolerated : c.delay < q.budget) (o : Observer τ) {r : Request}
    (accepted : r.Accepted) (t : τ) :
    ∃ hsfs d, c.Kin d ∧
      q.read o r c t
        = (some (.ok ()), d,
            (o.hear (.notify (.status hsfs) :: c.calls r.blockSize r.addresses ++ [.done]) t).2) := by
  obtain ⟨plan, planned, start, block, count⟩ := Request.plan_of_accepted accepted
  have kin : c.Kin { c with pending := c.pending - 1 } := .pending c _
  have answer := Controller.read_hsfs c
  generalize shown : (if c.pending = 0 then c.memory.load .w16 (c.spiBar + Offset.hsfs)
    else c.memory.load .w16 (c.spiBar + Offset.hsfs) &&& ~~~3) = status at answer
  have word : q.device.read .w16 (q.layout.offset Offset.hsfs) c
      = (status, { c with pending := c.pending - 1 }) := by
    rw [drives.device, drives.offset]
    exact answer
  have idle : ¬ (status : BitVec 16).getLsbD 5 = true := by
    have held : (c.memory.load .w16 (c.spiBar + Offset.hsfs) : BitVec 16).getLsbD 5 = false := free
    rw [← shown]
    split
    · rw [held]
      exact Bool.false_ne_true
    · change ¬ ((c.memory.load .w16 (c.spiBar + Offset.hsfs) : BitVec 16) &&& ~~~3#16).getLsbD 5 = true
      rw [BitVec.getLsbD_and, held, Bool.false_and]
      exact Bool.false_ne_true
  obtain ⟨d, kin', blocks⟩ := readBlocks_of_idle (drives.kin kin) ends tolerated o plan.words_pos
    plan.words_le plan.count plan.fits (o.notify (.status (Hsfs.decode status)) t)
  rw [kin.calls, block, count, start, ← Request.addresses_eq_range'] at blocks
  refine ⟨Hsfs.decode status, d, kin.trans kin', ?_⟩
  rw [read_of_plan drives.common o planned word t, if_neg idle, count, start, blocks]
  dsimp only
  rw [Ending.result_ofAnswer]
  rfl

end Sequencer

/-! ## The machine of a chipset -/

/-- Whether cycles whose end is hidden for a number of polls end within the limit. -/
def PollLimit.Tolerates (limit : PollLimit) (delay : Nat) : Prop :=
  match limit with
  | .unbounded => True
  | .iterations polls => delay < max polls 1

instance (limit : PollLimit) (delay : Nat) : Decidable (limit.Tolerates delay) :=
  match limit with
  | .unbounded => isTrue trivial
  | .iterations polls => inferInstanceAs (Decidable (delay < max polls 1))

theorem Machine.projects_controller :
    platform.window.Projects Controller.mmio Machine.controller :=
  ⟨fun _ _ _ => rfl, fun _ _ _ _ => rfl⟩

/-- The flash controller is all that the window of a machine shows. -/
theorem projects_controller :
    recordedPlatform.window.Projects Controller.mmio fun s => s.state.controller :=
  (Mmio.projects_recorded HardwareEvent.access Machine.platform.window).trans
    Machine.projects_controller

namespace Chipset

variable {τ : Type} {c : Chipset} {s : RecordedMachine}

theorem drives_of_known (known : c.family ∈ Catalogue.families)
    (place : s.state.controller.spiBar = c.layout.spiBar) :
    ((c.sequencer recordedPlatform s).onDevice Controller.mmio).Drives s.state.controller where
  common := c.family.layout_common
  device := rfl
  place := place.symm
  fits := by
    rw [place]
    exact Catalogue.spiBar_fits known

theorem lt_budget_of_tolerates (tolerated : c.pollLimit.Tolerates s.state.controller.delay) :
    s.state.controller.delay < (c.sequencer recordedPlatform s).budget := by
  unfold PollLimit.Tolerates at tolerated
  unfold Sequencer.budget
  change _ < match c.pollLimit with | .unbounded => s.state.controller.delay + 1 | .iterations n => max n 1
  split at tolerated
  · exact Nat.lt_succ_self _
  · exact tolerated

theorem readFlash_of_idle (known : c.family ∈ Catalogue.families)
    (place : s.state.controller.spiBar = c.layout.spiBar)
    (free : s.state.controller.hsfs.spiCycleInProgress = false)
    (ends : s.state.controller.stuck = false)
    (tolerated : c.pollLimit.Tolerates s.state.controller.delay) (o : Observer τ) {r : Request}
    (accepted : r.Accepted) (t : τ) :
    ∃ hsfs s',
      c.readFlash recordedPlatform o r s t
        = (some (.ok ()), s',
            (o.hear (.notify (.status hsfs)
              :: s.state.controller.calls r.blockSize r.addresses ++ [.done]) t).2) := by
  have drives := drives_of_known known place
  obtain ⟨hsfs, d, -, told⟩ := Sequencer.read_of_idle drives free ends
    (lt_budget_of_tolerates tolerated) o accepted t
  have projects : (c.sequencer recordedPlatform s).device.Projects Controller.mmio
      fun s => s.state.controller := projects_controller
  have same := Sequencer.read_onDevice projects o r s t
  rw [told, Prod.mk.injEq, Prod.mk.injEq] at same
  exact ⟨hsfs, _, Prod.ext same.1.symm (Prod.ext rfl same.2.2.symm)⟩

end Chipset

/-! ## What callbacks are told -/

namespace Callbacks

/-- What there is to tell about a block.  That its cycle failed comes before the data. -/
def blockEvents (k : Callbacks) (c : Controller) (blockSize address : Nat) : List DeliveryEvent :=
  (if c.errors.contains address && k.error.isSome then [.error address] else [])
    ++ [.block address (c.flash.slice address blockSize)]

/-- What there is to tell about a read, in order. -/
def script (k : Callbacks) (c : Controller) (r : Request) : List DeliveryEvent :=
  r.addresses.flatMap (k.blockEvents c r.blockSize) ++ if k.done then [.done] else []

theorem filterMap_calls (k : Callbacks) (c : Controller) (blockSize : Nat) (addresses : List Nat) :
    (c.calls blockSize addresses).filterMap k.event?
      = addresses.flatMap (k.blockEvents c blockSize) := by
  have block (address : Nat) :
      (Call.ofCycle address (c.errors.contains address)
          ++ [Call.block address (c.flash.slice address blockSize)]).filterMap k.event?
        = k.blockEvents c blockSize address := by
    rw [blockEvents]
    cases c.errors.contains address with
    | false => rfl
    | true => cases asked : k.error <;> simp [Call.ofCycle, List.filterMap_cons, event?, asked]
  rw [Controller.calls, List.filterMap_flatMap]
  exact congrArg (List.flatMap · addresses) (funext block)

end Callbacks

/-- A read delivers the flash, block by block, until a callback ends it.  What the
registers held before does not matter, nor does how long a cycle takes as long as the
limit tolerates it. -/
theorem Chipset.readFlash_delivers (c : Chipset) (k : Callbacks) (r : Request)
    (s : RecordedMachine) (told : List DeliveryEvent) (known : c.family ∈ Catalogue.families)
    (accepted : r.Accepted) (place : s.state.controller.spiBar = c.layout.spiBar)
    (free : s.state.controller.hsfs.spiCycleInProgress = false)
    (ends : s.state.controller.stuck = false)
    (tolerated : c.pollLimit.Tolerates s.state.controller.delay) :
    ∃ s', c.readFlash recordedPlatform k.observer r s told
      = (some (.ok ()), s', (k.tell (k.script s.state.controller r) told).2) := by
  obtain ⟨hsfs, s', result⟩ :=
    readFlash_of_idle known place free ends tolerated k.observer accepted told
  have heard : (Call.notify (.status hsfs)
      :: s.state.controller.calls r.blockSize r.addresses ++ [Call.done]).filterMap k.event?
      = k.script s.state.controller r := by
    rw [List.filterMap_append, List.filterMap_cons_none rfl, Callbacks.filterMap_calls,
      Callbacks.script]
    cases learn : k.done <;> simp [Callbacks.event?, learn]
  rw [Callbacks.hear_observer, heard] at result
  exact ⟨s', result⟩

theorem Chipset.readFlash_delivers_past_end :
    ∃ s', Chipset.readFlash ⟨Catalogue.ich9, ⟨0x8086, 0x2912, 0⟩, none, .iterations 3⟩
        recordedPlatform (Callbacks.observer ⟨fun _ => true, some fun _ => true, true⟩) ⟨0, 8, 4⟩
        (.start true
          ⟨.empty, { Controller.fresh 0x3800 (.pattern 6 1 0 0) with errors := [4], delay := 2 },
            false, false, #[]⟩) []
      = (some (.ok ()), s',
          [.block 0 [0, 1, 2, 3], .error 4, .block 4 [4, 5, 0xff, 0xff], .done]) :=
  readFlash_delivers _ ⟨fun _ => true, some fun _ => true, true⟩ ⟨0, 8, 4⟩ _ []
    (by simp [Catalogue.families]) ⟨by decide, by decide, by decide, by decide, by decide⟩ rfl
    (by
      rw [Controller.hsfs]
      simp only [Recorded.start, Controller.fresh, RegisterFile.load_zero]
      rfl)
    rfl (by decide)

end FlashDump
