import FlashDump.Bits.Field

/-!
# Registers of hardware sequencing

HSFS is the status of hardware sequencing, HSFC starts a cycle and FADDR is the
flash address of the cycle.  All three are read, changed and written back, so
their records keep the reserved bits.  A register that is written has a `Codec`.

The integer fields of a record are whole machine words.  Encoding cuts each to
the width of its bit field.
-/

namespace FlashDump.Register

open FlashDump.Bits

/-- A decoder and an encoder between words of `w` bits and records. -/
structure Codec (w : Nat) (α : Type) where
  decode : BitVec w → α
  encode : α → BitVec w

/-! ## HSFS -/

/-- The size of the unit that an erase cycle erases. -/
inductive EraseSize where
  | bytes256
  | kib4
  | kib8OrReserved
  | kib64
deriving DecidableEq, Repr

namespace EraseSize

/-- The two-bit code of a size. -/
def code : EraseSize → BitVec 2
  | bytes256 => 0
  | kib4 => 1
  | kib8OrReserved => 2
  | kib64 => 3

/-- The size with a two-bit code. -/
def ofCode (code : BitVec 2) : EraseSize :=
  match code.toNat with
  | 0 => bytes256
  | 1 => kib4
  | 2 => kib8OrReserved
  | _ => kib64

end EraseSize

/-- Hardware sequencing flash status. -/
structure Hsfs where
  /-- The configuration is locked (FLOCKDN). -/
  flashConfigurationLockdown : Bool
  /-- The flash has a valid descriptor (FDV). -/
  flashDescriptorValid : Bool
  /-- The descriptor override strap (FDOPSS). -/
  flashDescriptorOverridePinstrapStatus : Bool
  /-- Bits 12:6. -/
  reserved12 : BitVec 16
  /-- A cycle is in progress (SCIP). -/
  spiCycleInProgress : Bool
  /-- The erase size (BERASE). -/
  blockSectorEraseSize : EraseSize
  /-- An access error was logged (AEL). -/
  accessErrorLog : Bool
  /-- The cycle failed (FCERR). -/
  flashCycleError : Bool
  /-- The cycle is done (FDONE). -/
  flashCycleDone : Bool
deriving DecidableEq, Repr

namespace Hsfs

def decode (raw : BitVec 16) : Hsfs where
  flashConfigurationLockdown := test 15 raw
  flashDescriptorValid := test 14 raw
  flashDescriptorOverridePinstrapStatus := test 13 raw
  reserved12 := (field 12 6).value raw
  spiCycleInProgress := test 5 raw
  blockSectorEraseSize := .ofCode (((field 4 3).value raw).setWidth 2)
  accessErrorLog := test 2 raw
  flashCycleError := test 1 raw
  flashCycleDone := test 0 raw

def encode (r : Hsfs) : BitVec 16 :=
  flag 15 r.flashConfigurationLockdown
    ||| flag 14 r.flashDescriptorValid
    ||| flag 13 r.flashDescriptorOverridePinstrapStatus
    ||| (field 12 6).place r.reserved12
    ||| flag 5 r.spiCycleInProgress
    ||| (field 4 3).place (r.blockSectorEraseSize.code.setWidth 16)
    ||| flag 2 r.accessErrorLog
    ||| flag 1 r.flashCycleError
    ||| flag 0 r.flashCycleDone

def codec : Codec 16 Hsfs := ⟨decode, encode⟩

end Hsfs

/-! ## HSFC -/

/-- What a cycle does. -/
inductive FlashCycle where
  | read
  | reserved
  | write
  | blockErase
deriving DecidableEq, Repr

namespace FlashCycle

/-- The two-bit code of a cycle. -/
def code : FlashCycle → BitVec 2
  | read => 0
  | reserved => 1
  | write => 2
  | blockErase => 3

/-- The cycle with a two-bit code. -/
def ofCode (code : BitVec 2) : FlashCycle :=
  match code.toNat with
  | 0 => read
  | 1 => reserved
  | 2 => write
  | _ => blockErase

end FlashCycle

/-- Hardware sequencing flash control. -/
structure Hsfc where
  /-- A finished cycle raises SMI# (FSMIE). -/
  flashSpiSmiEnable : Bool
  /-- Bit 14. -/
  reserved14 : Bool
  /-- The number of bytes of the cycle, less one (FDBC). -/
  flashDataByteCount : BitVec 16
  /-- Bits 7:3. -/
  reserved7 : BitVec 16
  /-- What the cycle does (FCYCLE). -/
  flashCycle : FlashCycle
  /-- Start the cycle (FGO). -/
  flashCycleGo : Bool
deriving DecidableEq, Repr

namespace Hsfc

def decode (raw : BitVec 16) : Hsfc where
  flashSpiSmiEnable := test 15 raw
  reserved14 := test 14 raw
  flashDataByteCount := (field 13 8).value raw
  reserved7 := (field 7 3).value raw
  flashCycle := .ofCode (((field 2 1).value raw).setWidth 2)
  flashCycleGo := test 0 raw

def encode (r : Hsfc) : BitVec 16 :=
  flag 15 r.flashSpiSmiEnable
    ||| flag 14 r.reserved14
    ||| (field 13 8).place r.flashDataByteCount
    ||| (field 7 3).place r.reserved7
    ||| (field 2 1).place (r.flashCycle.code.setWidth 16)
    ||| flag 0 r.flashCycleGo

def codec : Codec 16 Hsfc := ⟨decode, encode⟩

end Hsfc

/-! ## FADDR -/

structure Faddr where
  /-- Bits 31:25. -/
  reserved25 : BitVec 32
  /-- The address of the first byte of the cycle (FLA). -/
  flashLinearAddress : BitVec 32
deriving DecidableEq, Repr

namespace Faddr

def decode (raw : BitVec 32) : Faddr where
  reserved25 := (field 31 25).value raw
  flashLinearAddress := (field 24 0).value raw

def encode (r : Faddr) : BitVec 32 :=
  (field 31 25).place r.reserved25 ||| (field 24 0).place r.flashLinearAddress

def codec : Codec 32 Faddr := ⟨decode, encode⟩

end Faddr

end FlashDump.Register
