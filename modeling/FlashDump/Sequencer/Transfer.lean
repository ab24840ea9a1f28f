import FlashDump.Sequencer.Cycle
import FlashDump.Sequencer.Observer
import FlashDump.Sequencer.Plan

/-!
# Reading the flash

`Sequencer.read` checks the request, looks once whether the controller is busy,
and then reads block after block in the order of their addresses.  Each block is
one cycle.

The read ends early, and without a failure, when the observer says so.  It fails
when a cycle does not end within the poll limit.
-/

namespace FlashDump

/-- How the blocks of a read came to an end. -/
inductive Ending where
  | completed
  /-- The observer did not want to go on. -/
  | stopped
  /-- A cycle did not end within the poll limit. -/
  | timedOut (address polls : Nat)
  /-- A cycle was followed as far as patience went and had not ended. -/
  | unfinished
deriving DecidableEq, Repr

/-- The result of a read that ended so, if it ended. -/
def Ending.result : Ending → Option (Except ChipsetError Unit)
  | completed | stopped => some (.ok ())
  | timedOut address polls => some (.error (.timeout address polls))
  | unfinished => none

namespace Sequencer

variable {σ τ : Type}

/-- Deal with a cycle that is done, whose status is given.  The answer is whether the
block is to be collected. -/
def acknowledge (o : Observer τ) (address : Nat) (hsfs : Register.Hsfs) (t : τ) : Bool × τ :=
  let t := o.notify (.cycleDone address) t
  if hsfs.flashCycleError then o.failed address t else (true, t)

/-- Read a number of blocks, each of `words` flash data registers, the first at the
given address. -/
def readBlocks (q : Sequencer σ) (o : Observer τ) (words : Nat) :
    (count address : Nat) → σ → τ → Ending × σ × τ
  | 0, _, s, t => (.completed, s, o.finish t)
  | count + 1, address, s, t =>
      match q.wait (q.startCycle words address s) with
      | (.unfinished, s) => (.unfinished, s, t)
      | (.timedOut polls, s) => (.timedOut address polls, s, o.notify (.timeout address) t)
      | (.done hsfs, s) =>
          match acknowledge o address hsfs t with
          | (false, t) => (.stopped, s, t)
          | (true, t) =>
              let (data, s) := q.collect (blockRegisters words) s
              match o.block address data t with
              | (false, t) => (.stopped, s, t)
              | (true, t) => q.readBlocks o words count (address + 4 * words) s t

/-- Read the flash.  There is no result if patience ran out. -/
def read (q : Sequencer σ) (o : Observer τ) (r : Request) (s : σ) (t : τ) :
    Option (Except ChipsetError Unit) × σ × τ :=
  match r.plan with
  | .error fault => (some (.error (.invalidArgument fault)), s, t)
  | .ok plan =>
      let (hsfs, s) := q.layout.readHsfs q.device s
      let t := o.notify (.status hsfs) t
      if hsfs.spiCycleInProgress then (some (.error .busy), s, o.notify .busy t)
      else
        let (ending, s, t) := q.readBlocks o plan.words plan.count plan.start s t
        (ending.result, s, t)

end Sequencer

end FlashDump
