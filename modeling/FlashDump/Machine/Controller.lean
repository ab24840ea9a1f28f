import FlashDump.Bits.Field
import FlashDump.Memory.RegisterFile
import FlashDump.Register.Offset

/-!
# A simulated flash controller

A flash chip has a size and a byte at each address below it.  Reading past the end
gives ones.

`Controller` is a register file in which one register acts.  A write that covers
the first byte of HSFC and leaves its lowest bit set runs a cycle.  The cycle takes
its address from FADDR and its length from HSFC as they are after the write.  It
fills the flash data registers, sets the done bit of HSFS, and the error bit too if
the address is one of those that fail, and clears the bit that started it.  All
this happens at once.

Three faults can be set.  A stuck controller starts cycles and never ends them.  An
address can be made to fail.  With a delay, the next so many reads of HSFS after
the start of a cycle show neither done nor error, while the register file already
holds them.

Everything else is plain memory.  Presets change it behind the back of the
controller: they start no cycle and are not counted as writes.
-/

namespace FlashDump

open FlashDump.Bits
open FlashDump.Register

/-- The contents of a flash chip. -/
structure Flash where
  size : Nat
  /-- The byte at each address below the size. -/
  cell : Nat → Byte

namespace Flash

/-- The byte at an address. -/
def byteAt (f : Flash) (address : Nat) : Byte :=
  if address < f.size then f.cell address else 0xff

/-- A number of bytes from an address on. -/
def slice (f : Flash) (address count : Nat) : List Byte :=
  (List.range count).map fun i => f.byteAt (address + i)

/-- A chip with the given contents. -/
def ofBytes (data : Array Byte) : Flash := ⟨data.size, fun i => data.getD i 0⟩

/-- A chip whose bytes follow a pattern that grows by `mul` from byte to byte and by
`high` from page of 256 to page, and begins with `add`. -/
def pattern (size mul high add : Nat) : Flash :=
  ⟨size, fun i => byteOfNat (i * mul + i / 256 * high + add)⟩

theorem length_slice (f : Flash) (address count : Nat) :
    (f.slice address count).length = count := by
  simp [slice]

end Flash

/-- A simulated flash controller. -/
structure Controller where
  /-- The offset of the SPI registers. -/
  spiBar : Nat
  memory : RegisterFile
  flash : Flash
  /-- The addresses whose cycles fail. -/
  errors : List Nat
  /-- Cycles never end. -/
  stuck : Bool
  /-- How many reads of HSFS hide the end of a cycle. -/
  delay : Nat
  /-- How many more reads of HSFS hide the end of the last cycle. -/
  pending : Nat
  /-- The number of cycles that were started. -/
  cycles : Nat
  /-- All writes so far, oldest first. -/
  writes : Array Write

namespace Controller

/-- A controller with zeroed registers. -/
def fresh (spiBar : Nat) (flash : Flash) : Controller where
  spiBar := spiBar
  memory := .zero
  flash := flash
  errors := []
  stuck := false
  delay := 0
  pending := 0
  cycles := 0
  writes := #[]

/-- The window offset of an SPI register. -/
def offset (c : Controller) (register : Nat) : Nat := c.spiBar + register

/-! ## Cycles -/

/-- The flash address of the cycle that the registers describe. -/
def cycleAddress (spiBar : Nat) (m : RegisterFile) : Nat :=
  ((field 24 0).value (m.load .w32 (spiBar + Offset.faddr))).toNat

/-- The number of bytes of the cycle that the registers describe. -/
def cycleLength (spiBar : Nat) (m : RegisterFile) : Nat :=
  ((field 13 8).value (m.load .w16 (spiBar + Offset.hsfc))).toNat + 1

/-- Store data as dwords, from an offset on.  The last one is filled up with zeros. -/
def storeData (m : RegisterFile) (offset : Nat) (data : List Byte) : RegisterFile :=
  (List.range ((data.length + 3) / 4)).foldl
    (fun m i =>
      m.store .w32 (offset + 4 * i) (LittleEndian.word 32 ((data.drop (4 * i)).take 4)))
    m

/-- The status after a cycle. -/
def statusAfter (failed : Bool) (hsfs : BitVec 16) : BitVec 16 :=
  hsfs ||| flag 0 true ||| flag 1 failed

/-- The register file after the cycle that it describes. -/
def completeCycle (spiBar : Nat) (flash : Flash) (errors : List Nat) (m : RegisterFile) :
    RegisterFile :=
  let address := cycleAddress spiBar m
  let data := flash.slice address (cycleLength spiBar m)
  let hsfc := m.load .w16 (spiBar + Offset.hsfc)
  let m := storeData m (spiBar + Offset.fdata) data
  let hsfs := m.load .w16 (spiBar + Offset.hsfs)
  let m := m.store .w16 (spiBar + Offset.hsfs) (statusAfter (errors.contains address) hsfs)
  m.store .w16 (spiBar + Offset.hsfc) (hsfc &&& ~~~1#16)

/-- Run the cycle that the registers describe. -/
def runCycle (c : Controller) : Controller :=
  let ⟨spiBar, memory, flash, errors, stuck, delay, _, cycles, writes⟩ := c
  let memory := if stuck then memory else completeCycle spiBar flash errors memory
  ⟨spiBar, memory, flash, errors, stuck, delay, delay, cycles + 1, writes⟩

/-- Whether a write, now stored, starts a cycle. -/
def starts (c : Controller) (width : Width) (offset : Nat) : Bool :=
  let hsfc := c.offset Offset.hsfc
  decide (offset ≤ hsfc) && decide (hsfc < offset + width.bytes) && test 0 (c.memory.byteAt hsfc)

/-! ## Accesses -/

/-- Store a word behind the back of the controller. -/
def preset (width : Width) (offset : Nat) (value : BitVec width.bits) (c : Controller) :
    Controller :=
  let ⟨spiBar, memory, flash, errors, stuck, delay, pending, cycles, writes⟩ := c
  ⟨spiBar, memory.store width offset value, flash, errors, stuck, delay, pending, cycles, writes⟩

/-- Count a write. -/
def logWrite (w : Write) (c : Controller) : Controller :=
  let ⟨spiBar, memory, flash, errors, stuck, delay, pending, cycles, writes⟩ := c
  ⟨spiBar, memory, flash, errors, stuck, delay, pending, cycles, writes.push w⟩

/-- Write at an offset. -/
def write (width : Width) (offset : Nat) (value : BitVec width.bits) (c : Controller) :
    Controller :=
  let c := preset width offset value (logWrite ⟨width, offset, value⟩ c)
  if c.starts width offset then c.runCycle else c

/-- Whether a read is one that hides the end of a cycle. -/
def hides (c : Controller) (width : Width) (offset : Nat) : Bool :=
  decide (width = .w16) && decide (offset = c.offset Offset.hsfs) && decide (0 < c.pending)

/-- Read at an offset. -/
def read (width : Width) (offset : Nat) (c : Controller) : BitVec width.bits × Controller :=
  let value := c.memory.load width offset
  if c.hides width offset then (value &&& ~~~3, { c with pending := c.pending - 1 })
  else (value, c)

/-- The controller as a device. -/
def mmio : Mmio Controller := ⟨read, write⟩

/-! ## Faults -/

/-- Make the cycles at an address fail. -/
def injectError (address : Nat) (c : Controller) : Controller :=
  { c with errors := address :: c.errors }

/-- Let cycles end, or never end. -/
def setStuck (stuck : Bool) (c : Controller) : Controller := { c with stuck }

/-- Set how many reads of HSFS hide the end of a cycle. -/
def setDelay (delay : Nat) (c : Controller) : Controller := { c with delay }

end Controller

end FlashDump
