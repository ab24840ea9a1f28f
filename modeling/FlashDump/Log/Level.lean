/-!
# Levels of the log

An entry of the log has a `Level`, from error down to trace.  A log has a
`Verbosity`, which is a level or off.  It keeps the entries whose level is at most
as low as its verbosity.
-/

namespace FlashDump.Log

/-- How much an entry matters, most first. -/
inductive Level where
  | error
  | warn
  | info
  | debug
  | trace
deriving DecidableEq, Repr

/-- The place of a level, counted from one. -/
def Level.rank : Level → Nat
  | error => 1
  | warn => 2
  | info => 3
  | debug => 4
  | trace => 5

/-- The tag of a level: its name in colour, padded on the right to five places. -/
def Level.tag : Level → String
  | error => "\x1b[31mERROR\x1b[0m"
  | warn => "\x1b[33mWARN\x1b[0m "
  | info => "\x1b[32mINFO\x1b[0m "
  | debug => "\x1b[34mDEBUG\x1b[0m"
  | trace => "\x1b[35mTRACE\x1b[0m"

/-- The lowest level that a log keeps. -/
inductive Verbosity where
  | off
  | error
  | warn
  | info
  | debug
  | trace
deriving DecidableEq, Repr

namespace Verbosity

/-- The rank of the lowest level that is kept. -/
def rank : Verbosity → Nat
  | off => 0
  | error => 1
  | warn => 2
  | info => 3
  | debug => 4
  | trace => 5

/-- Whether lines of a level are kept. -/
def keeps (v : Verbosity) (l : Level) : Bool := decide (l.rank ≤ v.rank)

/-- The verbosities with their names. -/
def names : List (String × Verbosity) :=
  [("OFF", off), ("ERROR", error), ("WARN", warn), ("INFO", info), ("DEBUG", debug),
    ("TRACE", trace)]

/-- The verbosity with a name, whose letters may be of either case. -/
def ofName? (name : String) : Option Verbosity :=
  (names.find? fun entry => entry.1.toList == name.toList.map Char.toUpper).map (·.2)

end Verbosity

def unknownLevelMessage : String :=
  "attempted to convert a string that doesn't match an existing log level"

end FlashDump.Log
