import FlashDump.Chipset.Failure

/-!
# Why there is no dump

A `Failure` says what the program was about when it failed, and why.  Its text is a
chain: a message, and under it the messages of the causes.
-/

namespace FlashDump.Dump

inductive Failure where
  | noConfigAccess (cause : ChipsetError)
  | notDetected (cause : ChipsetError)
  | notMapped (cause : ChipsetError)
  | notBootedFromSpi
  | noDescriptor
  | notOpened (path : String) (cause : OsError)
  /-- Software sequencing is in progress. -/
  | inProgress
  | notRead (cause : ChipsetError)
  | notWritten (path : String) (cause : OsError)
  /-- A flash cycle was followed as far as patience goes and had not ended. -/
  | unfinished
deriving DecidableEq, Repr

namespace Failure

/-- The hint for a root complex that can not be mapped. -/
def mappingHint : String :=
  "cannot map the root complex register block\n" ++
    "Check if your kernel was compiled with IO_STRICT_DEVMEM=y.\n" ++
    "On Debian kernels > 4.8.4, boot with iomem=relaxed to\n" ++
    "temporarily disable /dev/mem IO protection."

/-- The message of a failure and those of its causes, outermost first. -/
def chain : Failure → List String
  | noConfigAccess cause => "cannot access PCI configuration space" :: cause.chain
  | notDetected cause => "chipset detection failed" :: cause.chain
  | notMapped cause => mappingHint :: cause.chain
  | notBootedFromSpi => ["BIOS not located in SPI flash"]
  | noDescriptor => ["system not in descriptor mode"]
  | notOpened path cause => [s!"could not open {path} for writing", cause.message]
  | inProgress => ["SPI flash cycle in progress"]
  | notRead cause => cause.chain
  | notWritten path cause => [s!"could not write {path}", cause.message]
  | unfinished => ["flash cycle not done"]

def message (f : Failure) : String := f.chain.headD ""

/-- A cause with its number, right aligned to five places. -/
def numberedCause (number : Nat) (cause : String) : String :=
  let digits := toString number
  String.ofList (List.replicate (5 - digits.length) ' ') ++ digits ++ ": " ++ cause

/-- The causes as they are printed.  A single one is not numbered. -/
def causeLines : List String → List String
  | [] => []
  | [cause] => ["", "Caused by:", "    " ++ cause]
  | causes => "" :: "Caused by:" :: causes.mapIdx numberedCause

/-- A failure as it is printed at the end of the program. -/
def report (f : Failure) : String :=
  "\n".intercalate (("Error: " ++ f.message) :: causeLines f.chain.tail) ++ "\n"

end Failure

end FlashDump.Dump
