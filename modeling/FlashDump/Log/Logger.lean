import FlashDump.Log.Notice
import FlashDump.Text.Lines

/-!
# The log

A `Logger` has a verbosity and the notices it has kept.  Logging a notice keeps it
if the verbosity allows, and does nothing else.

Each notice is written with a line feed after it.  Where its text or its target holds
line feeds, it takes more than one line.
-/

namespace FlashDump.Log

/-- A log. -/
structure Logger where
  /-- The lowest level that is kept. -/
  verbosity : Verbosity
  /-- The notices that were kept, oldest first. -/
  kept : Array Notice

namespace Logger

/-- An empty log. -/
def empty (verbosity : Verbosity) : Logger := ⟨verbosity, #[]⟩

def log (n : Notice) (l : Logger) : Logger :=
  if l.verbosity.keeps n.level then { l with kept := l.kept.push n } else l

/-- Set the verbosity of a log that is already set up, which is noted under the old one. -/
def setVerbosity (verbosity : Verbosity) (l : Logger) : Logger :=
  { l.log .installed with verbosity }

/-- What is written for each notice, without the line feed after it. -/
def entries (l : Logger) : List String := l.kept.toList.map Notice.entry

/-- The lines of a log. -/
def lines (l : Logger) : List String := l.entries.flatMap Text.lines

theorem toList_kept_log (n : Notice) (l : Logger) :
    (l.log n).kept.toList
      = l.kept.toList ++ (if l.verbosity.keeps n.level then [n] else []) := by
  unfold log
  split <;> simp

theorem verbosity_log (n : Notice) (l : Logger) : (l.log n).verbosity = l.verbosity := by
  unfold log
  split <;> rfl

end Logger

end FlashDump.Log
