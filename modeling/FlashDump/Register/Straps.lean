import FlashDump.Bits.Field

/-!
# The boot straps

GCS tells from which device the machine boots, in two strap bits.  The chipsets
encode the straps in four ways.

* The first encoding has two codes for SPI, then PCI, then LPC.
* The direct encoding counts LPC, reserved, PCI, SPI.
* The encoding without PCI has reserved in its place.
* Integrated parts use bit 10 alone: clear is SPI and set is LPC.
-/

namespace FlashDump.Register

open FlashDump.Bits

/-- The device that the machine boots from. -/
inductive BootStraps where
  | lpc
  | reserved
  | pci
  | spi
deriving DecidableEq, Repr

namespace BootStraps

/-- The place of a device in the direct encoding. -/
def number : BootStraps → Nat
  | lpc => 0
  | reserved => 1
  | pci => 2
  | spi => 3

def text : BootStraps → String
  | lpc => "LPC"
  | reserved => "Reserved"
  | pci => "PCI"
  | spi => "SPI"

def ofFirstCode (code : BitVec 2) : BootStraps :=
  match code.toNat with
  | 0 => spi
  | 1 => spi
  | 2 => pci
  | _ => lpc

def ofDirectCode (code : BitVec 2) : BootStraps :=
  match code.toNat with
  | 0 => lpc
  | 1 => reserved
  | 2 => pci
  | _ => spi

def ofCodeWithoutPci (code : BitVec 2) : BootStraps :=
  match code.toNat with
  | 0 => lpc
  | 1 => reserved
  | 2 => reserved
  | _ => spi

def ofIntegratedBit (bit : Bool) : BootStraps :=
  if bit then lpc else spi

end BootStraps

/-- General control and status. -/
structure Gcs where
  bootBiosStraps : BootStraps
  biosInterfaceLockdown : Bool
deriving DecidableEq, Repr

namespace Gcs

/-- The two strap bits of a GCS word. -/
def strapCode (raw : BitVec 32) : BitVec 2 := ((field 11 10).value raw).setWidth 2

/-- The record of a GCS word whose straps are already decoded. -/
def withStraps (straps : BootStraps) (raw : BitVec 32) : Gcs where
  bootBiosStraps := straps
  biosInterfaceLockdown := test 0 raw

def decodeFirst (raw : BitVec 32) (_integratedIo : Bool) : Gcs :=
  withStraps (.ofFirstCode (strapCode raw)) raw

def decodeDirect (raw : BitVec 32) (_integratedIo : Bool) : Gcs :=
  withStraps (.ofDirectCode (strapCode raw)) raw

/-- GCS with the encoding without PCI, or that of integrated parts. -/
def decodeWithoutPci (raw : BitVec 32) (integratedIo : Bool) : Gcs :=
  if integratedIo then withStraps (.ofIntegratedBit (test 10 raw)) raw
  else withStraps (.ofCodeWithoutPci (strapCode raw)) raw

end Gcs

end FlashDump.Register
