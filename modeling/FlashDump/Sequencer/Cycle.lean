import FlashDump.Chipset.Registers

/-!
# Cycles of the sequencer

With a valid flash descriptor the controller runs read cycles on its own.  A cycle
is started by three registers, each read, changed and written back: HSFS with the
status of the last cycle cleared, FADDR with the address, and HSFC with the byte
count and the bit that starts the cycle.  Its end shows in HSFS, which is polled.
The data is then in the flash data registers.

Nothing forces a device to end a cycle.  A `PollLimit` bounds the polls of each
cycle or leaves them unbounded.  Where they are unbounded, `patience` bounds how
far a cycle is followed, and one that has not ended by then is said to be
unfinished.  A larger patience never changes the course of a cycle that ends.
-/

namespace FlashDump

/-- How long to wait for a cycle to end. -/
inductive PollLimit where
  /-- Poll until it ends. -/
  | unbounded
  /-- Give up after this many polls. -/
  | iterations (polls : Nat)
deriving DecidableEq, Repr

/-- So many polls are enough to give up. -/
def PollLimit.reached : PollLimit → (polls : Nat) → Bool
  | unbounded, _ => false
  | iterations most, polls => decide (most ≤ polls)

/-- What became of a cycle that was waited for. -/
inductive Wait where
  /-- The status shows it done. -/
  | done (hsfs : Register.Hsfs)
  /-- So many polls did not show it done. -/
  | timedOut (polls : Nat)
  /-- It was followed as far as patience goes. -/
  | unfinished

/-- A flash controller, seen through its registers. -/
structure Sequencer (σ : Type) where
  /-- Where the registers are and how they are coded. -/
  layout : Layout
  device : Mmio σ
  limit : PollLimit
  /-- How many polls to follow where there is no limit. -/
  patience : Nat

namespace Sequencer

variable {σ : Type}

/-- Start a read cycle of `words` flash data registers at an address. -/
def startCycle (q : Sequencer σ) (words address : Nat) (s : σ) : σ :=
  let (hsfs, s) := q.layout.readHsfs q.device s
  let s := q.layout.writeHsfs q.device
    { hsfs with accessErrorLog := false, flashCycleError := false, flashCycleDone := false } s
  let (faddr, s) := q.layout.readFaddr q.device s
  let s := q.layout.writeFaddr q.device
    { faddr with flashLinearAddress := BitVec.ofNat 32 address } s
  let (hsfc, s) := q.layout.readHsfc q.device s
  q.layout.writeHsfc q.device
    { hsfc with
      flashDataByteCount := BitVec.ofNat 16 (4 * words - 1)
      flashCycle := .read
      flashCycleGo := true } s

/-- Poll HSFS until it shows the cycle done or the limit is reached.  `polls` counts those that did
not show it done, and `further` are followed at most. -/
def waitFrom (q : Sequencer σ) : (further polls : Nat) → σ → Wait × σ
  | 0, _, s => (.unfinished, s)
  | further + 1, polls, s =>
      let (hsfs, s) := q.layout.readHsfs q.device s
      if hsfs.flashCycleDone then (.done hsfs, s)
      else
        let polls := polls + 1
        if q.limit.reached polls then (.timedOut polls, s) else q.waitFrom further polls s

/-- How many polls of a cycle to follow.  A limit is reached before that. -/
def horizon (q : Sequencer σ) : Nat :=
  match q.limit with
  | .unbounded => q.patience
  | .iterations most => most + 1

/-- Wait for the end of a cycle. -/
def wait (q : Sequencer σ) (s : σ) : Wait × σ := q.waitFrom q.horizon 0 s

/-- The bytes of the given flash data registers, in order. -/
def collect (q : Sequencer σ) : List (Fin Register.fdataCount) → σ → List Byte × σ
  | [], s => ([], s)
  | index :: rest, s =>
      let (word, s) := q.layout.readFdata q.device index s
      let (data, s) := q.collect rest s
      (LittleEndian.bytes 4 word ++ data, s)

/-- The flash data registers of a block. -/
def blockRegisters (words : Nat) : List (Fin Register.fdataCount) :=
  (List.finRange Register.fdataCount).take words

end Sequencer

end FlashDump
