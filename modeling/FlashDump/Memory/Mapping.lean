import FlashDump.Chipset.Failure
import FlashDump.Memory.Mmio

/-!
# Mappings of physical memory

The operating system hands out physical memory as a file that can be opened and
mapped.  A mapping begins at a page boundary, while a range of registers may begin
anywhere.  So a `Mapping` begins at the last boundary that is not above the range,
skips the bytes before the range, and ends where the range ends.

`Mapping.mmio` is the range as a device.  Offset zero is its first byte.

The file may end within a page.  A mapping holds the whole page, so what is stored
past the end can be loaded again, but it is not in the file.  Next to the pages of a
mapping is other memory of the process, and what is stored there is not in the file
either.  A `Cell` is one place or the other.

A mapping consists of whole pages, and the system wants them to have room in two ways.
`Mapping.refusal?` is what it says otherwise.
-/

namespace FlashDump

/-- A place for one byte. -/
inductive Cell where
  /-- At an address of physical memory. -/
  | physical (address : Nat)
  /-- In other memory of the process, by the address that physical memory would have
  there. -/
  | process (address : Nat)
deriving DecidableEq, Repr

/-- Physical memory as the operating system hands it out. -/
structure PhysicalMemory where
  pageSize : Nat
  /-- The number of bytes in the file. -/
  size : Nat
  /-- The byte in each cell.  Those at addresses from the size on are in the pages only. -/
  byteAt : Cell → Byte
  /-- The refusal to open it, if there is one. -/
  openRefusal : Option OsError

namespace PhysicalMemory

/-- Memory that is zero everywhere and that may be opened. -/
def zero (pageSize size : Nat) : PhysicalMemory := ⟨pageSize, size, fun _ => 0, none⟩

/-- Store one byte. -/
def setByte (m : PhysicalMemory) (cell : Cell) (b : Byte) : PhysicalMemory :=
  { m with byteAt := fun c => if c = cell then b else m.byteAt c }

/-- Store bytes at increasing addresses, each in the cell for its address. -/
def storeBytes (m : PhysicalMemory) (cell : Nat → Cell) (address : Nat) :
    List Byte → PhysicalMemory
  | [] => m
  | b :: data => (m.setByte (cell address) b).storeBytes cell (address + 1) data

/-- The bytes at `count` increasing addresses, each from the cell for its address. -/
def loadBytes (m : PhysicalMemory) (cell : Nat → Cell) (address count : Nat) : List Byte :=
  (List.range count).map fun i => m.byteAt (cell (address + i))

/-- The bytes of a range, as far as they are in the file. -/
def look (m : PhysicalMemory) (address count : Nat) : List Byte :=
  m.loadBytes .physical address (min count (m.size - address))

end PhysicalMemory

/-- A mapping of physical memory. -/
structure Mapping where
  /-- The first address, at a page boundary. -/
  start : Nat
  length : Nat
  /-- The number of bytes before the range that was asked for. -/
  skip : Nat
deriving DecidableEq, Repr

namespace Mapping

/-- The mapping for a range. -/
def ofRange (pageSize address length : Nat) : Mapping :=
  let skip := address % pageSize
  ⟨address - skip, length + skip, skip⟩

/-- The number of values of a machine word, which holds a length or an offset. -/
def wordCount : Nat := 0x10000000000000000

/-- The longest mapping that finds room in the address space of a process.  The
program is loaded above two thirds of the lower half, and below it nothing is. -/
def maxLength : Nat := 0x800000000000 / 3 * 2

/-- The last position in a file. -/
def maxPosition : Nat := 0x7fffffffffffffff

/-- The number of bytes of the pages of a mapping. -/
def pagesLength (pageSize : Nat) (v : Mapping) : Nat :=
  (v.length + pageSize - 1) / pageSize * pageSize

/-- Why the system refuses a mapping.  It looks at the length first, and then at where
the pages end in the file. -/
def refusal? (pageSize : Nat) (v : Mapping) : Option OsError :=
  if v.length = 0 then some .invalidArgument
  else if maxLength < v.pagesLength pageSize then some .noMemory
  else if maxPosition < v.start + v.pagesLength pageSize then some .tooLarge
  else none

/-- The physical address of an offset into the range.  Offsets wrap around, so those
at the end of the word lie before the range. -/
def address (v : Mapping) (offset : Nat) : Nat := v.start + (v.skip + offset) % wordCount

/-- The cell for an address. -/
def cell (pageSize : Nat) (v : Mapping) (address : Nat) : Cell :=
  if v.start ≤ address ∧ address < v.start + v.pagesLength pageSize then .physical address
  else .process address

/-- The range as a device. -/
def mmio (v : Mapping) : Mmio PhysicalMemory where
  read width offset m :=
    let data := m.loadBytes (v.cell m.pageSize) (v.address offset) width.bytes
    (LittleEndian.word width.bits data, m)
  write width offset value m :=
    m.storeBytes (v.cell m.pageSize) (v.address offset) (LittleEndian.bytes width.bytes value)

theorem length_le_pagesLength {pageSize : Nat} (positive : 0 < pageSize) (v : Mapping) :
    v.length ≤ v.pagesLength pageSize := by
  have split := Nat.div_add_mod' (v.length + pageSize - 1) pageSize
  have rest := Nat.mod_lt (v.length + pageSize - 1) positive
  unfold pagesLength
  omega

theorem cell_of_lt {pageSize : Nat} (positive : 0 < pageSize) {v : Mapping} {address : Nat}
    (low : v.start ≤ address) (high : address < v.start + v.length) :
    v.cell pageSize address = .physical address := by
  have pages := length_le_pagesLength positive v
  exact if_pos ⟨low, by omega⟩

theorem address_ofRange {pageSize address offset : Nat}
    (h : address % pageSize + offset < wordCount) (length : Nat) :
    (ofRange pageSize address length).address offset = address + offset := by
  have below := Nat.mod_le address pageSize
  simp only [ofRange, Mapping.address, Nat.mod_eq_of_lt h]
  omega

end Mapping

end FlashDump
