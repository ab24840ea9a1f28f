import FlashDump.Session.Basic

/-!
# Transcripts

`Session.play` makes a list of steps and keeps, for each, the answer and what it did
to the hardware.  A `Transcript` is a session from its beginning to its end: the
chipset is detected, the steps are made, and the chipset is let go, which releases the
window if it is mapped.
-/

namespace FlashDump

namespace Session

/-- What came of a step, and what it did to the hardware. -/
structure Turn where
  /-- The answer, or the misuse that the step is. -/
  answer : Except Misuse Answer
  /-- What was done to the hardware, as far as it was recorded. -/
  events : List HardwareEvent

/-- What was recorded since the last time, and the session with an empty recorder. -/
def takeEvents (s : Session) : List HardwareEvent × Session :=
  let (events, hardware) := s.context.hardware.take
  (events, s.withHardware hardware)

/-- Make a step and see what it did.  Misuse does nothing, and the session goes on. -/
def turn (s : Session) (step : Step) : Turn × Session :=
  match s.step step with
  | .error misuse => (⟨.error misuse, []⟩, s)
  | .ok (answer, s) =>
      let (events, s) := s.takeEvents
      (⟨.ok answer, events⟩, s)

/-- Make the steps of a list, in order. -/
def play (s : Session) : List Step → List Turn × Session
  | [] => ([], s)
  | step :: steps =>
      let (turn, s) := s.turn step
      let (turns, s) := s.play steps
      (turn :: turns, s)

end Session

/-- A session as it is reported. -/
structure Transcript where
  /-- The chipset as it was detected, or why it was not. -/
  probe : Except ChipsetError Chipset
  /-- What detecting it did to the hardware. -/
  probeEvents : List HardwareEvent
  turns : List Session.Turn
  /-- What letting go of the chipset did to the hardware. -/
  closing : List HardwareEvent
  log : List String

namespace Session

/-- Detect the chipset of a machine, make the steps of a list, and let go of it. -/
def transcript (machine : Machine) (recording : Bool) (verbosity : Log.Verbosity)
    (steps : List Step) : Transcript :=
  let (probe, context) := start machine recording verbosity
  let (probeEvents, hardware) := context.hardware.take
  match probe with
  | .error e => ⟨.error e, probeEvents, [], [], context.log.lines⟩
  | .ok chipset =>
      let (turns, s) := play ⟨chipset, { context with hardware }⟩ steps
      let (closing, s) := s.unmap.takeEvents
      ⟨.ok chipset, probeEvents, turns, closing, s.context.log.lines⟩

end Session

end FlashDump
