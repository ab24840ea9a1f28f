import FlashDump.CommandLine.Scan
import FlashDump.Dump.Run

/-!
# The whole program

`Program.start` reads the command line and makes the dump.  What it leaves behind is an
exit code, what it printed, what it said in the log and about a failure, and the
disk.

The exit code is zero for a dump, and where help or the version was asked for.  It is
one for a failure, and two for a command line that is not accepted.

`Program.main` is the command for a system that always refuses the privileges.
-/

namespace FlashDump

namespace Program

def name : String := "pchflash"

def version : String := "0.1.0"

def summary : String :=
  "Dump the BIOS/UEFI SPI flash of Intel ICH/PCH chipsets via hardware sequencing"

/-- What is printed first. -/
def banner : String := Dump.line s!"{name} {version}, {summary}"

/-- What is printed where the version is asked for. -/
def versionText : String := Dump.line s!"{name} {version}"

/-- What is printed where help is asked for. -/
def helpText : String :=
  String.join
    [Dump.line "Extract BIOS/UEFI firmware via SPI hardware sequencing", Dump.line "",
      Dump.line s!"Usage: {name} [OPTIONS] [OUTPUT]", Dump.line "",
      Dump.line "Arguments:",
      Dump.line "  [OUTPUT]  Output file [default: bios_via_spi_hs.bin]", Dump.line "",
      Dump.line "Options:",
      Dump.line "      --no-logo                  Do not display version information",
      Dump.line "      --flash-size <FLASH_SIZE>  Number of bytes to read [default: 0x1000000]",
      Dump.line "      --start <START>            First flash address to read [default: 0]",
      Dump.line ("      --block-size <BLOCK_SIZE>  Bytes per hardware sequencing cycle " ++
        "(multiple of 4, 4 to 64) [default: 64]"),
      Dump.line ("      --max-polls <MAX_POLLS>    " ++
        "Give up on a flash cycle after this many status polls"),
      Dump.line ("      --stop-on-error            " ++
        "Stop at the first block the chipset refuses to read"),
      Dump.line ("      --log-level <LOG_LEVEL>    Log level (off, error, warn, info, debug, trace) " ++
        "[env: PCHFLASH_LOG=] [default: warn]"),
      Dump.line "  -h, --help                     Print help",
      Dump.line "  -V, --version                  Print version"]

/-- What is said about a command line that is not accepted. -/
def refusalText : CommandLine.Refusal → String
  | .unknownArgument => "unexpected argument"
  | .missingValue => "a value is required"
  | .unexpectedValue => "unexpected value"
  | .repeated => "an argument is given twice"
  | .badNumber text fault => CommandLine.badNumberMessage text fault
  | .badCount text fault => CommandLine.badNumberMessage text fault
  | .badLevel text => CommandLine.badLevelMessage text
  | .help => "help"
  | .version => "version"

/-- What the program leaves behind. -/
structure Outcome where
  code : Nat
  printed : String
  /-- The log, and what is said about a failure. -/
  complaints : String
  disk : Disk

/-- What is left behind where the command line is not accepted. -/
def refuse (disk : Disk) : CommandLine.Refusal → Outcome
  | .help => ⟨0, helpText, "", disk⟩
  | .version => ⟨0, versionText, "", disk⟩
  | refusal => ⟨2, "", Dump.line ("error: " ++ refusalText refusal), disk⟩

/-- The log as it is written. -/
def logText (l : Log.Logger) : String := String.join (l.entries.map Dump.line)

/-- Run the program with the options of a command line. -/
def runWith {σ : Type} (p : Platform σ) (o : CommandLine.Options) (hardware : σ) (disk : Disk) :
    Outcome :=
  let printed := if o.noLogo then "" else banner
  match Dump.run p o ⟨⟨hardware, .empty o.logLevel⟩, disk, printed⟩ with
  | .ok () w => ⟨0, w.printed, logText w.context.log, w.disk⟩
  | .error e w => ⟨1, w.printed, logText w.context.log ++ e.report, w.disk⟩

def start {σ : Type} (p : Platform σ) (words : List String) (environment : Option String)
    (hardware : σ) (disk : Disk) : Outcome :=
  match CommandLine.read words environment with
  | .error refusal => refuse disk refusal
  | .ok o => runWith p o hardware disk

/-! ## The command -/

/-- The operation is not permitted. -/
def notPermitted : OsError := .errno 1

/-- The I/O ports of a system on which a process can not use them. -/
def closedPorts : Pci.Ports Unit where
  setPrivilege _ _ := (some notPermitted, ())
  input width _ _ := (BitVec.allOnes width.bits, ())
  output _ _ _ _ := ()

/-- A system on which a process can use neither I/O ports nor physical memory. -/
def host : Platform Unit where
  acquire := Pci.PortAccess.acquire closedPorts
  release := Pci.PortAccess.release closedPorts
  config := Pci.PortAccess.reader closedPorts
  map _ _ _ := (.error (.refused .openMemory notPermitted), ())
  unmap _ := ()
  window := ⟨fun width _ _ => (BitVec.allOnes width.bits, ()), fun _ _ _ _ => ()⟩
  patience _ := 1

/-- The command on such a system. -/
def main (args : List String) : IO UInt32 := do
  let environment ← IO.getEnv "PCHFLASH_LOG"
  let outcome := start host args environment () .empty
  IO.print outcome.printed
  IO.eprint outcome.complaints
  return outcome.code.toUInt32

end Program

end FlashDump
