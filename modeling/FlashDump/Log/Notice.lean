import FlashDump.Chipset.Failure
import FlashDump.Log.Level

/-!
# What is logged

A `Notice` is something worth a line in the log.  Each has a level, a target,
which names the part of the program that logs it, and a text.  `Notice.entry` is
what is written.
-/

namespace FlashDump.Log

/-- An entry of the log, before it is written. -/
inductive Notice where
  | bridge (id : HardwareId)
  | found (family device : String)
  | biosCntl (raw : BitVec 8)
  | rcba (raw : BitVec 32)
  | gcs (raw : BitVec 32)
  /-- RCBA does not hold an enabled address. -/
  | baseDisabled
  | mapped (base : BitVec 32)
  /-- The status before a read. -/
  | status (hsfs : Register.Hsfs)
  | busy
  | cycleDone (address : Nat)
  /-- A cycle is done and failed. -/
  | cycleError (address : Nat)
  /-- A cycle did not end within the poll limit. -/
  | timeout (address : Nat)
  /-- A block of the dump could not be read. -/
  | unreadable (address : Nat)
  | failedBlocks (count : Nat)
  | wrote (path : String)
  | privilegesGranted
  /-- Privileges for I/O ports could not be dropped. -/
  | privilegesKept (cause : OsError)
  /-- The log was set up before. -/
  | installed
  /-- Any other entry. -/
  | plain (level : Level) (target text : String)
deriving DecidableEq

namespace Notice

/-- The level of a notice. -/
def level : Notice → Level
  | bridge _ | biosCntl _ | rcba _ | gcs _ | status _ | privilegesGranted | installed => .debug
  | found _ _ | mapped _ | wrote _ => .info
  | cycleError _ | unreadable _ | failedBlocks _ | privilegesKept _ => .warn
  | baseDisabled | busy | timeout _ => .error
  | cycleDone _ => .trace
  | plain level _ _ => level

/-- The part of the program that logs a notice. -/
def target : Notice → String
  | bridge _ | found _ _ | biosCntl _ | rcba _ => "pchflash::drivers::spi::intel"
  | gcs _ => "pchflash::drivers::spi::intel_chipsets"
  | baseDisabled | mapped _ => "pchflash::drivers::spi::rcrb"
  | status _ | busy | cycleDone _ | cycleError _ | timeout _ => "pchflash::drivers::spi::hwseq"
  | unreadable _ | failedBlocks _ | wrote _ => "pchflash"
  | privilegesGranted | privilegesKept _ => "pchflash::drivers::pci::access"
  | installed => "pchflash::logger"
  | plain _ target _ => target

def text : Notice → String
  | bridge id => s!"LPC bridge at {Pci.Address.lpcBridge.text}: {id.text}"
  | found family device => s!"Found {family} ({device}) at {Pci.Address.lpcBridge.text}"
  | biosCntl raw => s!"BIOS_CNTL: 0x{Text.hexLower 2 raw.toNat}"
  | rcba raw => s!"RCBA: 0x{Text.hexLower 8 raw.toNat}"
  | gcs raw => s!"GCS: 0x{Text.hexLower 8 raw.toNat}"
  | baseDisabled => "RCBA not enabled"
  | mapped base => s!"Mapped root complex register block at 0x{Text.hexLower 8 base.toNat}"
  | status hsfs =>
      s!"HSFS: FLOCKDN={Text.bitDigit hsfs.flashConfigurationLockdown} " ++
        s!"FDV={Text.bitDigit hsfs.flashDescriptorValid} " ++
        s!"FDOPSS={Text.bitDigit hsfs.flashDescriptorOverridePinstrapStatus} " ++
        s!"SCIP={Text.bitDigit hsfs.spiCycleInProgress} " ++
        s!"AEL={Text.bitDigit hsfs.accessErrorLog} " ++
        s!"FCERR={Text.bitDigit hsfs.flashCycleError} " ++
        s!"FDONE={Text.bitDigit hsfs.flashCycleDone}"
  | busy => "SPI cycle already in progress"
  | cycleDone address => s!"Read cycle at 0x{Text.hexLower 6 address} done"
  | cycleError address => s!"Flash cycle error at 0x{Text.hexLower 6 address}"
  | timeout address => s!"Hardware sequencing timeout at 0x{Text.hexLower 6 address}"
  | unreadable address => s!"Could not read block at 0x{Text.hexLower 8 address}"
  | failedBlocks count => s!"{count} blocks could not be read"
  | wrote path => s!"Wrote {path}"
  | privilegesGranted => "Acquired I/O privilege level 3"
  | privilegesKept cause => s!"Failed to drop I/O privileges: {cause.message}"
  | installed => "Logger already installed"
  | plain _ _ text => text

/-- What is written for a notice. -/
def entry (n : Notice) : String := s!"[{n.level.tag}] {n.target}: {n.text}"

end Notice

end FlashDump.Log
