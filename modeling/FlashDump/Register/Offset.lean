/-!
# Where the registers are

GCS has a fixed place in the root complex window.  The SPI registers form a
block whose place, the SPI BAR, depends on the chipset.  Their offsets here count
from the start of that block.
-/

namespace FlashDump.Register.Offset

/-- General control and status, 32 bits, counted from the start of the window. -/
def gcs : Nat := 0x3410

/-- BIOS flash primary region, 32 bits. -/
def bfpr : Nat := 0x00

/-- Hardware sequencing flash status, 16 bits. -/
def hsfs : Nat := 0x04

/-- Hardware sequencing flash control, 16 bits. -/
def hsfc : Nat := 0x06

/-- Flash address, 32 bits. -/
def faddr : Nat := 0x08

/-- The first flash data register, 32 bits each. -/
def fdata : Nat := 0x10

/-- Flash region access permissions, 32 bits. -/
def frap : Nat := 0x50

/-- The first flash region register, 32 bits each. -/
def freg : Nat := 0x54

/-- The first protected range register, 32 bits each. -/
def pr : Nat := 0x74

/-- Software sequencing flash status, 8 bits. -/
def ssfs : Nat := 0x90

/-- Software sequencing flash control, 24 bits. -/
def ssfc : Nat := 0x91

end FlashDump.Register.Offset

namespace FlashDump.Register

def fdataCount : Nat := 16

/-- The number of flash region registers, and of protected range registers. -/
def regionCount : Nat := 5

/-- The size of the flash address space, which is what 25 bits can address. -/
def flashAddressSpace : Nat := 0x2000000

end FlashDump.Register
