import FlashDump.Bits.Field

/-!
# Registers of the LPC bridge

BIOS_CNTL says how the BIOS range may be written and how reads of it are cached.
RCBA holds the physical address of the root complex register block.  Both are in
configuration space and are only read.
-/

namespace FlashDump.Register

open FlashDump.Bits

/-! ## BIOS_CNTL -/

/-- How reads of the flash are prefetched and cached. -/
inductive ReadConfiguration where
  | noPrefetchButCache
  | noPrefetchNoCache
  | prefetchAndCache
  | reserved
deriving DecidableEq, Repr

/-- The configuration with a two-bit code. -/
def ReadConfiguration.ofCode (code : BitVec 2) : ReadConfiguration :=
  match code.toNat with
  | 0 => noPrefetchButCache
  | 1 => noPrefetchNoCache
  | 2 => prefetchAndCache
  | _ => reserved

structure BiosCntl where
  /-- Bits 7:6. -/
  reserved : BitVec 8
  smmBiosWriteProtectDisable : Bool
  topSwapStatus : Bool
  spiReadConfiguration : ReadConfiguration
  biosLockEnable : Bool
  biosWriteEnable : Bool
deriving DecidableEq, Repr

namespace BiosCntl

/-- The layout in which bit 5 is reserved and reported as clear. -/
def decode (raw : BitVec 8) : BiosCntl where
  reserved := (field 7 6).value raw
  smmBiosWriteProtectDisable := false
  topSwapStatus := test 4 raw
  spiReadConfiguration := .ofCode (((field 3 2).value raw).setWidth 2)
  biosLockEnable := test 1 raw
  biosWriteEnable := test 0 raw

/-- The layout in which bit 5 is the SMM write protect disable. -/
def decodeWithSmm (raw : BitVec 8) : BiosCntl :=
  { decode raw with smmBiosWriteProtectDisable := test 5 raw }

end BiosCntl

/-! ## RCBA -/

structure Rcba where
  /-- Bits 31:14 where they are, which is the physical address of the block. -/
  baseAddress : BitVec 32
  /-- Bits 13:1. -/
  reserved : BitVec 32
  enable : Bool
deriving DecidableEq, Repr

def Rcba.decode (raw : BitVec 32) : Rcba where
  baseAddress := (field 31 14).mask raw
  reserved := (field 13 1).value raw
  enable := test 0 raw

end FlashDump.Register
