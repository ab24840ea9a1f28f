import FlashDump.Chipset.Handle
import FlashDump.Chipset.Record
import FlashDump.Machine.Setup
import FlashDump.Session.Delivery

/-!
# Steps of a session

A `Step` is something done with a chipset that was detected on a simulated machine, or
to the machine behind its back.  An `Answer` is what comes of it.
-/

namespace FlashDump

inductive BridgeTarget where
  | biosCntl | rcba
deriving DecidableEq, Repr

inductive WindowTarget where
  | gcs | bfpr | hsfs | hsfc | faddr | frap | ssfs | ssfc
  | fdata (index : Nat)
  | freg (index : Nat)
  | pr (index : Nat)
deriving DecidableEq, Repr

inductive Step where
  /-- Map the window by a given RCBA word, or by the one of the chipset. -/
  | map (rcba : Option (BitVec 32))
  | unmap
  /-- Ask for the address of the window. -/
  | base
  /-- Ask for the state of the session. -/
  | state
  | readBridge (target : BridgeTarget)
  | readWindow (target : WindowTarget)
  | write (record : WritableRecord)
  /-- Decode a word and write the record to its register. -/
  | writeWord (name : WritableName) (raw : BitVec 32)
  | access (request : AccessRequest)
  | preset (p : Preset)
  | injectError (address : Nat)
  | setStuck (stuck : Bool)
  /-- Set how many reads of HSFS hide the end of a cycle. -/
  | setDelay (delay : Nat)
  | setPollLimit (limit : PollLimit)
  | readFlash (request : Request) (policy : Policy)

/-- What can be seen of the state of a session. -/
structure Overview where
  mapped : Bool
  /-- The requests for mappings that the machine saw. -/
  requests : Array (Nat × Nat)
  cycles : Nat
  writes : Nat
  /-- The chipset is part of a processor. -/
  integratedIo : Bool
deriving DecidableEq

inductive Answer where
  | ok
  | failed (e : ChipsetError)
  | base (address : BitVec 32)
  | state (o : Overview)
  | record (r : Record)
  /-- The word of a flash data register. -/
  | word (w : BitVec 32)
  | reply (r : AccessReply)
  /-- The result of a read, what it delivered and the number of cycles it started. -/
  | delivered (result : Option (Except ChipsetError Unit)) (d : Delivery) (cycles : Nat)

end FlashDump
