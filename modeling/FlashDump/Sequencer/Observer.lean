import FlashDump.Log.Notice
import FlashDump.Memory.LittleEndian

/-!
# Observers of a read

A read hands each block to an observer as soon as the block is there.  The
observer answers whether the read is to go on.  It may also want to decide what
happens to a block whose cycle failed, and to know that the last block is
delivered.  An observer that does not decide about failed blocks gets them like
any other.

An observer has a state of its own, of any type, so that its answers can be any
function of what it was told before.
-/

namespace FlashDump

/-- What is told to the one who asked for a read, with states `τ`. -/
structure Observer (τ : Type) where
  /-- Take the block at an address.  The answer is whether to go on. -/
  block : (address : Nat) → (data : List Byte) → τ → Bool × τ
  /-- Decide about a block whose cycle failed.  The answer is whether to go on. -/
  error : Option ((address : Nat) → τ → Bool × τ)
  /-- Learn that all blocks are delivered. -/
  done : Option (τ → τ)
  /-- Take note of what the read reports on its way. -/
  notify : Log.Notice → τ → τ

namespace Observer

variable {τ : Type}

/-- Decide about a block whose cycle failed, which is noted first. -/
def failed (o : Observer τ) (address : Nat) (t : τ) : Bool × τ :=
  let t := o.notify (.cycleError address) t
  match o.error with
  | some decide => decide address t
  | none => (true, t)

/-- Learn that all blocks are delivered. -/
def finish (o : Observer τ) (t : τ) : τ :=
  match o.done with
  | some learn => learn t
  | none => t

end Observer

end FlashDump
