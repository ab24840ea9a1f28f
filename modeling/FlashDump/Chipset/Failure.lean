import FlashDump.Chipset.Catalogue
import FlashDump.OsError

/-!
# What can go wrong with a chipset

`ChipsetError` lists the reasons for which an operation on a chipset fails.  They
are expected and are answered.  `Misuse` lists the uses of the interface that
have no meaning: reaching for the window when it is not mapped, a register index
that does not exist, and a length that no machine word holds.
-/

namespace FlashDump

/-- Why the arguments of an operation are refused. -/
inductive ArgumentFault where
  /-- RCBA does not hold an enabled address. -/
  | baseDisabled
  /-- The block size is not within 4 to 64. -/
  | blockSizeRange
  /-- The block size is not a multiple of 4. -/
  | blockSizeMultiple
  /-- The size is not a multiple of the block size. -/
  | sizeMultiple
  /-- The read would end past the last flash address. -/
  | pastEnd
deriving DecidableEq, Repr

def ArgumentFault.message : ArgumentFault → String
  | baseDisabled => "root complex base address is disabled"
  | blockSizeRange => "block size must be within 4..=64 bytes"
  | blockSizeMultiple => "block size must be a multiple of 4 bytes"
  | sizeMultiple => "size must be a multiple of the block size"
  | pastEnd => "read runs past the 32 MiB flash address space"

/-- What the operating system may refuse. -/
inductive Resource where
  | ioPrivileges
  | openMemory
  | mapMemory
deriving DecidableEq, Repr

def Resource.refusal : Resource → String
  | ioPrivileges => "failed to acquire I/O privileges (needs root or CAP_SYS_RAWIO)"
  | openMemory => "failed to open physical memory (are you root?)"
  | mapMemory => "failed to map physical memory"

inductive ChipsetError where
  | unsupported (id : HardwareId) (reason : UnsupportedReason)
  | invalidArgument (fault : ArgumentFault)
  /-- A flash cycle is already running. -/
  | busy
  | refused (resource : Resource) (cause : OsError)
  /-- A flash cycle did not end within the poll limit. -/
  | timeout (address polls : Nat)
deriving DecidableEq, Repr

namespace ChipsetError

def message : ChipsetError → String
  | unsupported id reason => s!"{reason.message} ({id.text})"
  | invalidArgument fault => s!"invalid argument: {fault.message}"
  | busy => "SPI flash cycle in progress"
  | refused resource cause => s!"{resource.refusal}: {cause.message}"
  | timeout address polls =>
      s!"flash cycle at 0x{Text.hexLower 6 address} not done after {polls} polls"

/-- The text of an error, followed by that of its cause if it has one. -/
def chain (e : ChipsetError) : List String :=
  match e with
  | refused _ cause => [e.message, cause.message]
  | _ => [e.message]

end ChipsetError

/-- A use of the interface that has no meaning. -/
inductive Misuse where
  | notMapped
  /-- There is no such flash data register. -/
  | fdataIndex (index : Nat)
  /-- There is no such flash region register. -/
  | fregIndex (index : Nat)
  /-- There is no such protected range register. -/
  | prIndex (index : Nat)
  /-- The length of a mapping does not fit a word. -/
  | lengthOverflow
deriving DecidableEq, Repr

def Misuse.message : Misuse → String
  | notMapped => "root complex not mapped, call map_root_complex() first"
  | fdataIndex index => s!"FDATA index {index} out of range"
  | fregIndex index => s!"FREG index {index} out of range"
  | prIndex index => s!"PR index {index} out of range"
  | lengthOverflow => "attempt to add with overflow"

end FlashDump
