import FlashDump.Chipset.Handle
import FlashDump.CommandLine.Options
import FlashDump.Dump.Report
import FlashDump.Dump.Sink

/-!
# Copying the flash

While the flash is read, `Progress` is what the program knows about the copy.  It is
the state of the observer that writes each block to the sink, prints a dot now and
then, counts the blocks that could not be read, and ends the read when the sink
refuses data.
-/

namespace FlashDump.Dump

def blocksPerDot : Nat := 256

structure Progress where
  sink : Sink
  log : Log.Logger
  printed : String
  /-- Why the sink refused data, if it did. -/
  writeError : Option OsError
  failedBlocks : Nat

namespace Progress

def print (text : String) (t : Progress) : Progress := { t with printed := t.printed ++ text }

def note (n : Log.Notice) (t : Progress) : Progress := { t with log := t.log.log n }

/-- Print a dot if the block at an address is due one. -/
def mark (o : CommandLine.Options) (address : Nat) (t : Progress) : Progress :=
  if (address - o.start) / o.blockSize % blocksPerDot = 0 then t.print "." else t

/-- Write a block.  The answer is whether the sink took it. -/
def write (data : List Byte) (t : Progress) : Bool × Progress :=
  let ⟨sink, log, printed, writeError, failedBlocks⟩ := t
  match sink.write data with
  | (none, sink) => (true, ⟨sink, log, printed, writeError, failedBlocks⟩)
  | (some e, sink) => (false, ⟨sink, log, printed, some e, failedBlocks⟩)

/-- Count a block that could not be read. -/
def fail (address : Nat) (t : Progress) : Progress :=
  let t := t.note (.unreadable address)
  { t with failedBlocks := t.failedBlocks + 1 }

end Progress

/-- The observer that copies the flash. -/
def copier (o : CommandLine.Options) : Observer Progress where
  block address data t := (t.mark o address).write data
  error := some fun address t => (!o.stopOnError, t.fail address)
  done := some (.print "\n")
  notify n t := t.note n

end FlashDump.Dump
