import FlashDump.CommandLine.Options

/-!
# Reading a command line

A command line is read word by word.  An option takes its value from the word
itself, after an equals sign, or from the next word.  A word that is neither an
option nor the value of one is the output file.  After two hyphens on their own all
words are.

A value that came as a word of its own is looked at when the next option, switch or
file comes, or at the end.  So a mistake in the word after it can be noticed first:
a word that begins like an option and names none is refused at once.  All else is
noticed in the order of the words.

The level of the log may also come from the environment.  It is looked at only when
the words are all accepted and none of them sets the level.
-/

namespace FlashDump.CommandLine

/-- What takes a value. -/
inductive Slot where
  | output | flashSize | start | blockSize | maxPolls | logLevel
deriving DecidableEq, Repr

/-- What takes none. -/
inductive Switch where
  | noLogo | stopOnError | help | version
deriving DecidableEq, Repr

inductive OptionName where
  /-- One that takes a value. -/
  | slot (s : Slot)
  /-- One that takes none. -/
  | switch (s : Switch)
deriving DecidableEq, Repr

def longNames : List (String × OptionName) :=
  [("no-logo", .switch .noLogo), ("flash-size", .slot .flashSize), ("start", .slot .start),
    ("block-size", .slot .blockSize), ("max-polls", .slot .maxPolls),
    ("stop-on-error", .switch .stopOnError), ("log-level", .slot .logLevel),
    ("help", .switch .help), ("version", .switch .version)]

def shortNames : List (Char × Switch) := [('h', .help), ('V', .version)]

/-- The values that are accepted so far. -/
structure Given where
  output : Option String := none
  noLogo : Bool := false
  flashSize : Option Nat := none
  start : Option Nat := none
  blockSize : Option Nat := none
  maxPolls : Option Nat := none
  stopOnError : Bool := false
  logLevel : Option Log.Verbosity := none

namespace Given

/-- Whether a value was accepted. -/
def has (g : Given) : Slot → Bool
  | .output => g.output.isSome
  | .flashSize => g.flashSize.isSome
  | .start => g.start.isSome
  | .blockSize => g.blockSize.isSome
  | .maxPolls => g.maxPolls.isSome
  | .logLevel => g.logLevel.isSome

/-- Accept a value.  A second one is refused before it is looked at. -/
def store (g : Given) (slot : Slot) (text : String) : Except Refusal Given :=
  if g.has slot then .error .repeated
  else
    match slot with
    | .output => do return { g with output := some (← readPath text) }
    | .flashSize => do return { g with flashSize := some (← readNumber text) }
    | .start => do return { g with start := some (← readNumber text) }
    | .blockSize => do return { g with blockSize := some (← readNumber text) }
    | .maxPolls => do return { g with maxPolls := some (← readCount text) }
    | .logLevel => do return { g with logLevel := some (← readLevel text) }

/-- Act on a switch. -/
def turnOn (g : Given) : Switch → Except Refusal Given
  | .noLogo => if g.noLogo then .error .repeated else .ok { g with noLogo := true }
  | .stopOnError => if g.stopOnError then .error .repeated else .ok { g with stopOnError := true }
  | .help => .error .help
  | .version => .error .version

end Given

/-- How far a command line is read. -/
structure Scan where
  /-- The values that are accepted. -/
  given : Given := {}
  /-- The slot that was named last, and its value if that has come. -/
  waiting : Option (Slot × Option String) := none
  /-- The output file has come. -/
  named : Bool := false
  /-- All further words are files. -/
  trailing : Bool := false

namespace Scan

/-- Look at the value that came last. -/
def settle (s : Scan) : Except Refusal Scan :=
  match s.waiting with
  | none => .ok s
  | some (_, none) => .error .missingValue
  | some (slot, some text) => do
      let given ← s.given.store slot text
      return { s with given, waiting := none }

def option (s : Scan) (name : OptionName) (value : Option String) : Except Refusal Scan :=
  match name, value with
  | .slot slot, none => do
      let s ← s.settle
      return { s with waiting := some (slot, none) }
  | .slot slot, some text => do
      let s ← s.settle
      let given ← s.given.store slot text
      return { s with given }
  | .switch switch, none => do
      let s ← s.settle
      let given ← s.given.turnOn switch
      return { s with given }
  | .switch _, some _ => .error .unexpectedValue

/-- Read a word that is no option. -/
def file (s : Scan) (text : String) : Except Refusal Scan :=
  if s.named then .error .unknownArgument
  else do
    let s ← s.settle
    return { s with waiting := some (.output, some text), named := true }

/-- Read a word that is no option: the value of the slot that waits for one, or a file. -/
def plain (s : Scan) (text : String) : Except Refusal Scan :=
  match s.waiting with
  | some (slot, none) => .ok { s with waiting := some (slot, some text) }
  | _ => s.file text

/-- The text before the first equals sign and the text after it, if there is one. -/
def splitValue (cs : List Char) : String × Option String :=
  let name := cs.takeWhile (· != '=')
  match cs.dropWhile (· != '=') with
  | [] => (.ofList name, none)
  | _ :: value => (.ofList name, some (.ofList value))

def word (s : Scan) (text : String) : Except Refusal Scan :=
  if s.trailing then s.file text
  else
    match text.toList with
    | ['-', '-'] => .ok { s with trailing := true }
    | '-' :: '-' :: rest =>
        let (name, value) := splitValue rest
        match longNames.lookup name with
        | some option => s.option option value
        | none => .error .unknownArgument
    | '-' :: c :: _ =>
        match shortNames.lookup c with
        | some switch => s.option (.switch switch) none
        | none => .error .unknownArgument
    | _ => s.plain text

end Scan

/-- The level of the log: the one that is given, else that of the environment, else
the default. -/
def chooseLevel (given : Option Log.Verbosity) (environment : Option String) :
    Except Refusal Log.Verbosity :=
  match given, environment with
  | some level, _ => .ok level
  | none, some text => readLevel text
  | none, none => .ok .warn

/-- The options that are accepted, with the defaults for the others. -/
def Given.options (g : Given) (logLevel : Log.Verbosity) : Options where
  output := g.output.getD "bios_via_spi_hs.bin"
  noLogo := g.noLogo
  flashSize := g.flashSize.getD 0x1000000
  start := g.start.getD 0
  blockSize := g.blockSize.getD 64
  maxPolls := g.maxPolls
  stopOnError := g.stopOnError
  logLevel := logLevel

/-- Read a command line. -/
def read (words : List String) (environment : Option String) : Except Refusal Options := do
  let s ← words.foldlM Scan.word {}
  let s ← s.settle
  let logLevel ← chooseLevel s.given.logLevel environment
  return s.given.options logLevel

end FlashDump.CommandLine
