import FlashDump.Register.HardwareCycle

/-!
# Registers of software sequencing

SSFS is the status of software sequencing, 8 bits wide, and SSFC its control, 24
bits wide.  An SSFC word here has 32 bits.  Decoding looks at the low 24 of them
and encoding leaves the other eight clear.
-/

namespace FlashDump.Register

open FlashDump.Bits

/-! ## SSFS -/

/-- Software sequencing flash status. -/
structure Ssfs where
  /-- Bits 7:5. -/
  reserved7 : BitVec 8
  /-- An access error was logged (AEL). -/
  accessErrorLog : Bool
  /-- The cycle failed (FCERR). -/
  flashCycleError : Bool
  /-- The cycle is done (CDS). -/
  cycleDoneStatus : Bool
  /-- Bit 1. -/
  reserved1 : Bool
  /-- A cycle is in progress (SCIP). -/
  spiCycleInProgress : Bool
deriving DecidableEq, Repr

namespace Ssfs

def decode (raw : BitVec 8) : Ssfs where
  reserved7 := (field 7 5).value raw
  accessErrorLog := test 4 raw
  flashCycleError := test 3 raw
  cycleDoneStatus := test 2 raw
  reserved1 := test 1 raw
  spiCycleInProgress := test 0 raw

def encode (r : Ssfs) : BitVec 8 :=
  (field 7 5).place r.reserved7
    ||| flag 4 r.accessErrorLog
    ||| flag 3 r.flashCycleError
    ||| flag 2 r.cycleDoneStatus
    ||| flag 1 r.reserved1
    ||| flag 0 r.spiCycleInProgress

def codec : Codec 8 Ssfs := ⟨decode, encode⟩

end Ssfs

/-! ## SSFC -/

/-- The frequency of a cycle. -/
inductive CycleFrequency where
  | mhz20
  | mhz33
  /-- Any other code, kept as it is. -/
  | reserved (code : BitVec 8)
deriving DecidableEq, Repr

namespace CycleFrequency

/-- The code of a frequency, of which three bits count. -/
def code : CycleFrequency → BitVec 8
  | mhz20 => 0
  | mhz33 => 1
  | reserved code => code

/-- The frequency with a three-bit code. -/
def ofCode (code : BitVec 3) : CycleFrequency :=
  match code.toNat with
  | 0 => mhz20
  | 1 => mhz33
  | _ => reserved (code.setWidth 8)

end CycleFrequency

/-- Software sequencing flash control. -/
structure Ssfc where
  /-- Bits 23:19. -/
  reserved23 : BitVec 8
  /-- The frequency (SCF). -/
  spiCycleFrequency : CycleFrequency
  /-- A finished cycle raises SMI# (SME). -/
  spiSmiEnable : Bool
  /-- The cycle moves data (DS). -/
  dataCycle : Bool
  /-- The number of data bytes, less one (DBC). -/
  dataByteCount : BitVec 8
  /-- Bit 7. -/
  reserved7 : Bool
  /-- The opcode of the cycle (COP). -/
  cycleOpcodePointer : BitVec 8
  /-- The opcode that goes before it (SPOP). -/
  sequencePrefixOpcodePointer : Bool
  /-- Both opcodes run as one (ACS). -/
  atomicCycleSequence : Bool
  /-- Start the cycle (SCGO). -/
  spiCycleGo : Bool
  /-- Bit 0. -/
  reserved0 : Bool
deriving DecidableEq, Repr

namespace Ssfc

def decode (raw : BitVec 32) : Ssfc where
  reserved23 := ((field 23 19).value raw).setWidth 8
  spiCycleFrequency := .ofCode (((field 18 16).value raw).setWidth 3)
  spiSmiEnable := test 15 raw
  dataCycle := test 14 raw
  dataByteCount := ((field 13 8).value raw).setWidth 8
  reserved7 := test 7 raw
  cycleOpcodePointer := ((field 6 4).value raw).setWidth 8
  sequencePrefixOpcodePointer := test 3 raw
  atomicCycleSequence := test 2 raw
  spiCycleGo := test 1 raw
  reserved0 := test 0 raw

def encode (r : Ssfc) : BitVec 32 :=
  (field 23 19).place (r.reserved23.setWidth 32)
    ||| (field 18 16).place (r.spiCycleFrequency.code.setWidth 32)
    ||| flag 15 r.spiSmiEnable
    ||| flag 14 r.dataCycle
    ||| (field 13 8).place (r.dataByteCount.setWidth 32)
    ||| flag 7 r.reserved7
    ||| (field 6 4).place (r.cycleOpcodePointer.setWidth 32)
    ||| flag 3 r.sequencePrefixOpcodePointer
    ||| flag 2 r.atomicCycleSequence
    ||| flag 1 r.spiCycleGo
    ||| flag 0 r.reserved0

def codec : Codec 32 Ssfc := ⟨decode, encode⟩

end Ssfc

end FlashDump.Register
