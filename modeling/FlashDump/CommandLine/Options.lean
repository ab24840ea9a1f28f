import FlashDump.Log.Level
import FlashDump.Text.Numeral

/-!
# Options of the program

`Options` is what a command line asks for.  `Refusal` is why one is not accepted:
it can not be understood, a value is no value for its option, or it asks for help
or the version in place of a dump.
-/

namespace FlashDump.CommandLine

structure Options where
  output : String
  /-- Leave out the banner. -/
  noLogo : Bool
  flashSize : Nat
  start : Nat
  /-- The number of bytes per cycle. -/
  blockSize : Nat
  /-- Give up on a cycle after this many polls. -/
  maxPolls : Option Nat
  /-- Stop at the first block that can not be read. -/
  stopOnError : Bool
  /-- The lowest level of the log that is written. -/
  logLevel : Log.Verbosity
deriving DecidableEq, Repr

inductive Refusal where
  /-- There is no such option, or no place for a value. -/
  | unknownArgument
  | missingValue
  | unexpectedValue
  | repeated
  | badNumber (text : String) (fault : Text.NumeralFault)
  | badCount (text : String) (fault : Text.NumeralFault)
  | badLevel (text : String)
  | help
  | version
deriving DecidableEq, Repr

/-- What is said about a value that is not a number. -/
def badNumberMessage (text : String) (fault : Text.NumeralFault) : String :=
  s!"invalid number '{text}': {fault.message}"

/-- What is said about a value that is not a level. -/
def badLevelMessage (text : String) : String :=
  s!"invalid log level '{text}': {Log.unknownLevelMessage}"

/-- What the program has to say about a value that it refuses. -/
def Refusal.message : Refusal → Option String
  | badNumber text fault => some (badNumberMessage text fault)
  | badLevel text => some (badLevelMessage text)
  | _ => none

/-! ## Values -/

/-- The number that a value is. -/
def readNumber (text : String) : Except Refusal Nat :=
  match Text.readWord text with
  | .ok n => .ok n
  | .error fault => .error (.badNumber text fault)

/-- The number of polls that a value is. -/
def readCount (text : String) : Except Refusal Nat :=
  match Text.readCount text with
  | .ok n => .ok n
  | .error fault => .error (.badCount text fault)

/-- The level that a value is. -/
def readLevel (text : String) : Except Refusal Log.Verbosity :=
  match Log.Verbosity.ofName? text with
  | some level => .ok level
  | none => .error (.badLevel text)

/-- The path that a value is. -/
def readPath (text : String) : Except Refusal String :=
  if text.isEmpty then .error .missingValue else .ok text

end FlashDump.CommandLine
