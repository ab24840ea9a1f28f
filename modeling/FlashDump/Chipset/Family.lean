import FlashDump.Chipset.Layout

/-!
# Chipset families

A family is a generation of chipsets: its devices, the entries of the register
layout that it changes, and the generations that it descends from.  Its layout
is inherited along its line of descent, which begins with the family itself.
-/

namespace FlashDump

/-- The generations, oldest first. -/
inductive Series where
  | ich8
  | ich9
  | ich10
  | series6
  | series7
  | series8
  | series9
deriving DecidableEq, Repr

namespace Series

/-- The place of a generation, counted from the oldest. -/
def ordinal : Series → Nat
  | ich8 => 0
  | ich9 => 1
  | ich10 => 2
  | series6 => 3
  | series7 => 4
  | series8 => 5
  | series9 => 6

def text : Series → String
  | ich8 => "ICH8"
  | ich9 => "ICH9"
  | ich10 => "ICH10"
  | series6 => "6 Series (Cougar Point)"
  | series7 => "7 Series (Panther Point)"
  | series8 => "8 Series (Lynx Point)"
  | series9 => "9 Series (Wildcat Point)"

end Series

/-- A chipset, known by the device number of its LPC bridge. -/
structure Device where
  id : BitVec 16
  name : String
deriving DecidableEq, Repr

/-- What a generation adds to those before it. -/
structure Generation where
  series : Series
  name : String
  devices : List Device
  /-- Which of its devices are part of a processor. -/
  integratedIo : List (BitVec 16) := []
  /-- The entries of the register layout that it changes. -/
  overrides : Overrides := .none

/-- A generation and those it descends from. -/
structure Family where
  generation : Generation
  /-- Those it descends from, nearest first. -/
  ancestors : List Generation

namespace Family

/-- A family that descends from no other. -/
def root (g : Generation) : Family := ⟨g, []⟩

/-- The family of a generation that descends from a family. -/
def descend (parent : Family) (g : Generation) : Family := ⟨g, parent.generation :: parent.ancestors⟩

/-- The generation and those it descends from, nearest first. -/
def lineage (f : Family) : List Generation := f.generation :: f.ancestors

def layout (f : Family) : Layout := .inherit (f.lineage.map (·.overrides))

def name (f : Family) : String := f.generation.name

def supports (f : Family) (device : BitVec 16) : Bool :=
  f.generation.devices.any (·.id == device)

/-- Whether a device of a family is part of a processor. -/
def isIntegratedIo (f : Family) (device : BitVec 16) : Bool :=
  f.generation.integratedIo.contains device

/-- The name of a device, if it belongs to a family. -/
def deviceName (f : Family) (device : BitVec 16) : Option String :=
  (f.generation.devices.find? (·.id == device)).map (·.name)

end Family

end FlashDump
