import FlashDump.Log.Logger
import FlashDump.Sequencer.Observer

/-!
# What a read delivered

A `Delivery` is the account of a read: the blocks and the failed addresses that its
observer was told, in order, and whether it was told of the end.  A `Policy` is an
observer that answers by the number of the call, counted from zero, and keeps such a
account beside the log.
-/

namespace FlashDump

/-- Something an observer was told. -/
inductive DeliveryEvent where
  | block (address : Nat) (data : List Byte)
  /-- An address whose cycle failed. -/
  | error (address : Nat)
  | done
deriving DecidableEq

/-- What an observer was told. -/
structure Delivery where
  blocks : Nat
  errors : Nat
  /-- All that was told, oldest first. -/
  events : Array DeliveryEvent
deriving DecidableEq

namespace Delivery

/-- Nothing was told. -/
def empty : Delivery := ⟨0, 0, #[]⟩

def addBlock (address : Nat) (data : List Byte) (d : Delivery) : Delivery :=
  { d with blocks := d.blocks + 1, events := d.events.push (.block address data) }

def addError (address : Nat) (d : Delivery) : Delivery :=
  { d with errors := d.errors + 1, events := d.events.push (.error address) }

def addDone (d : Delivery) : Delivery := { d with events := d.events.push .done }

/-- The data of all blocks, in order. -/
def image (d : Delivery) : List Byte :=
  d.events.toList.flatMap fun
    | .block _ data => data
    | _ => []

end Delivery

/-- How an observer answers. -/
structure Policy where
  /-- Whether to go on after a block, by the number of blocks before it. -/
  block : Nat → Bool
  /-- Whether to go on after a failed cycle, by the number of those before it. -/
  error : Option (Nat → Bool)
  /-- Whether to be told of the end. -/
  done : Bool

namespace Policy

/-- Whether to go on, from a list of answers after which all are yes. -/
def listed (answers : List Bool) (call : Nat) : Bool := answers.getD call true

/-- Whether to go on, where only one call is answered with no. -/
def stopAt (call : Option Nat) (n : Nat) : Bool := call != some n

/-- The observer that answers so. -/
def observer (p : Policy) : Observer (Delivery × Log.Logger) where
  block address data t := (p.block t.1.blocks, t.1.addBlock address data, t.2)
  error := p.error.map fun decide address t =>
    (decide t.1.errors, t.1.addError address, t.2)
  done := if p.done then some fun t => (t.1.addDone, t.2) else none
  notify n t := (t.1, t.2.log n)

end Policy

end FlashDump
