import FlashDump.Bits.Field
import FlashDump.Text.Numeral

/-!
# Configuration addresses

A function of a PCI device is named by its bus, device and function number.  The
configuration address of one of its registers packs the three numbers and the
register offset into a word with bit 31 set: bus in bits 23:16, device in 15:11,
function in 10:8, offset in 7:0.  The two low bits of the offset are kept and
select the byte lane of a narrow access.
-/

namespace FlashDump.Pci

open FlashDump.Bits

/-- The widths of a configuration access. -/
inductive ConfigWidth where
  | w8 | w16 | w32
deriving DecidableEq, Repr

namespace ConfigWidth

@[reducible] def bytes : ConfigWidth → Nat
  | w8 => 1
  | w16 => 2
  | w32 => 4

@[reducible] def bits : ConfigWidth → Nat
  | w8 => 8
  | w16 => 16
  | w32 => 32

end ConfigWidth

/-- A function of a PCI device. -/
structure Address where
  bus : BitVec 8
  /-- The device, of which five bits count. -/
  device : BitVec 8
  /-- The function, of which three bits count. -/
  function : BitVec 8
deriving DecidableEq, Repr

namespace Address

/-- The LPC bridge of the chipset, which holds its identity and the address of
the root complex. -/
def lpcBridge : Address := ⟨0x00, 31, 0⟩

/-- The configuration address of a register. -/
def configAddress (a : Address) (offset : BitVec 8) : BitVec 32 :=
  flag 31 true
    ||| (field 23 16).place (a.bus.setWidth 32)
    ||| (field 15 11).place (a.device.setWidth 32)
    ||| (field 10 8).place (a.function.setWidth 32)
    ||| (field 7 0).place (offset.setWidth 32)

/-- The text of an address, such as `00:1f.0`. -/
def text (a : Address) : String :=
  s!"{Text.hexLower 2 a.bus.toNat}:{Text.hexLower 2 a.device.toNat}.{a.function.toNat}"

example : lpcBridge.configAddress 0xf0 = 0x8000f8f0 := by decide
example : lpcBridge.text = "00:1f.0" := by decide

end Address

/-! ## Registers of the LPC bridge -/

/-- The vendor register, 16 bits. -/
def vendorOffset : BitVec 8 := 0x00

/-- The device register, 16 bits. -/
def deviceOffset : BitVec 8 := 0x02

/-- The revision register, 8 bits. -/
def revisionOffset : BitVec 8 := 0x08

/-- The BIOS control register, 8 bits. -/
def biosControlOffset : BitVec 8 := 0xdc

/-- The root complex base address register, 32 bits. -/
def rcbaOffset : BitVec 8 := 0xf0

/-! ## Readers -/

/-- A way to read configuration space, with states `σ`. -/
structure ConfigReader (σ : Type) where
  read : (width : ConfigWidth) → (address : BitVec 32) → σ → BitVec width.bits × σ

namespace ConfigReader

variable {σ : Type}

def bridge8 (r : ConfigReader σ) (offset : BitVec 8) (s : σ) : BitVec 8 × σ :=
  r.read .w8 (Address.lpcBridge.configAddress offset) s

def bridge16 (r : ConfigReader σ) (offset : BitVec 8) (s : σ) : BitVec 16 × σ :=
  r.read .w16 (Address.lpcBridge.configAddress offset) s

def bridge32 (r : ConfigReader σ) (offset : BitVec 8) (s : σ) : BitVec 32 × σ :=
  r.read .w32 (Address.lpcBridge.configAddress offset) s

end ConfigReader

end FlashDump.Pci
