import FlashDump.Memory.Mapping

/-!
# Physical memory in a process

A `Process` has the file of physical memory, a count of how often it holds the file open, and
the regions of its address space that show parts of the file.  The system decides where a region
is placed, and may refuse it.  A `System` is any such decision, and `System.roomy` the one of a
process with room.

`Process.acquire` opens the file and maps a range.  What it got is given back where it fails, but
for one case: a mapping at address zero is taken for a failure and stays.
`Region.mmio` is the range as a device of the process.  `PhysicalMemory.map` is for a process that
has nothing but the mapping, which may forget where it was placed.
-/

namespace FlashDump

/-- A part of the address space of a process that shows a mapping. -/
structure Region where
  /-- Where it begins in the process. -/
  place : Nat
  mapping : Mapping
deriving DecidableEq

/-- A process with the file of physical memory. -/
structure Process where
  memory : PhysicalMemory
  /-- How often the file is open. -/
  opened : Nat
  /-- The mappings that are in place, the latest first. -/
  regions : List Region

/-- What the system says to a request for a mapping: where it is placed, or why it is refused. -/
def System := Process → Mapping → Except OsError Nat

/-- The lowest place that the system gives a mapping. -/
def lowestPlace : Nat := 0x10000

/-- The system of a process that has nothing else in its way. -/
def System.roomy : System := fun p mapping =>
  match mapping.refusal? p.memory.pageSize with
  | some cause => .error cause
  | none => .ok lowestPlace

namespace Region

/-- Whether an address of the process is in a region, which consists of whole pages. -/
def Holds (pageSize : Nat) (g : Region) (address : Nat) : Prop :=
  g.place ≤ address ∧ address < g.place + g.mapping.pagesLength pageSize

instance (pageSize : Nat) (g : Region) (address : Nat) : Decidable (g.Holds pageSize address) :=
  inferInstanceAs (Decidable (_ ∧ _))

/-- Where the range that was asked for begins in the process. -/
def base (g : Region) : Nat := g.place + g.mapping.skip

/-- The address in the process of an offset into the range.  Addresses wrap around. -/
def address (g : Region) (offset : Nat) : Nat := (g.base + offset) % Mapping.wordCount

end Region

namespace Process

/-- The cell behind an address of the process. -/
def cell (p : Process) (address : Nat) : Cell :=
  match p.regions.find? fun g => g.Holds p.memory.pageSize address with
  | some g => .physical (g.mapping.start + (address - g.place))
  | none => .process address

def openFile (p : Process) : Process := { p with opened := p.opened + 1 }

def closeFile (p : Process) : Process := { p with opened := p.opened - 1 }

/-- Make a mapping that the system has placed. -/
def addRegion (g : Region) (p : Process) : Process := { p with regions := g :: p.regions }

/-- Map a range of physical memory.  The number of bytes from the page boundary on must fit a
word. -/
def acquire (sys : System) (address length : Nat) (p : Process) :
    Except Misuse (Except ChipsetError Region) × Process :=
  let mapping := Mapping.ofRange p.memory.pageSize address length
  match p.memory.openRefusal with
  | some cause => (.ok (.error (.refused .openMemory cause)), p)
  | none =>
      let p := p.openFile
      if Mapping.wordCount ≤ mapping.length then (.error .lengthOverflow, p.closeFile)
      else
        match sys p mapping with
        | .error cause => (.ok (.error (.refused .mapMemory cause)), p.closeFile)
        | .ok place =>
            let p := p.addRegion ⟨place, mapping⟩
            if place = 0 then (.ok (.error (.refused .mapMemory .nullMapping)), p.closeFile)
            else (.ok (.ok ⟨place, mapping⟩), p)

/-- Let go of a mapping and of the file. -/
def release (g : Region) (p : Process) : Process :=
  { p with regions := p.regions.erase g }.closeFile

end Process

/-- The range as a device of the process. -/
def Region.mmio (g : Region) : Mmio Process where
  read width offset p :=
    let data := p.memory.loadBytes p.cell (g.address offset) width.bytes
    (LittleEndian.word width.bits data, p)
  write width offset value p :=
    { p with memory :=
        p.memory.storeBytes p.cell (g.address offset) (LittleEndian.bytes width.bytes value) }

/-- Map a range of physical memory in a process with room. -/
def PhysicalMemory.map (m : PhysicalMemory) (address length : Nat) :
    Except Misuse (Except ChipsetError Mapping) :=
  (Process.acquire .roomy address length ⟨m, 0, []⟩).1.map fun answer => answer.map Region.mapping

end FlashDump
