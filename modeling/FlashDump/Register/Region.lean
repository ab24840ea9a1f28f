import FlashDump.Bits.Field

/-!
# Flash regions and ranges

The flash is divided in pages of 4 KiB.  BFPR, FREG and PR hold two page numbers
of 13 bits, a base and a limit.  The records hold byte addresses: the base is
the first byte of its page.  The limit of FREG and PR is the last byte of its
page, that of BFPR is the first.

FRAP holds one byte of permission bits for each of four grants.
-/

namespace FlashDump.Register

open FlashDump.Bits

def pageBase (page : BitVec 32) : BitVec 32 := (field 24 12).place page

def pageLimit (page : BitVec 32) : BitVec 32 := pageBase page ||| 0xfff#32

/-- The page number in the bits 12:0. -/
def basePage (raw : BitVec 32) : BitVec 32 := (field 12 0).value raw

/-- The page number in the bits 28:16. -/
def limitPage (raw : BitVec 32) : BitVec 32 := (field 28 16).value raw

/-! ## BFPR -/

structure Bfpr where
  /-- Bits 31:29. -/
  reserved31 : BitVec 8
  /-- The limit, the first byte of its page. -/
  limit : BitVec 32
  /-- Bits 15:13. -/
  reserved15 : BitVec 8
  base : BitVec 32
deriving DecidableEq, Repr

def Bfpr.decode (raw : BitVec 32) : Bfpr where
  reserved31 := ((field 31 29).value raw).setWidth 8
  limit := pageBase (limitPage raw)
  reserved15 := ((field 15 13).value raw).setWidth 8
  base := pageBase (basePage raw)

/-! ## FRAP -/

structure Frap where
  biosMasterWriteAccessGrant : BitVec 8
  biosMasterReadAccessGrant : BitVec 8
  biosRegionWriteAccess : BitVec 8
  biosRegionReadAccess : BitVec 8
deriving DecidableEq, Repr

namespace Frap

def decode (raw : BitVec 32) : Frap where
  biosMasterWriteAccessGrant := ((field 31 24).value raw).setWidth 8
  biosMasterReadAccessGrant := ((field 23 16).value raw).setWidth 8
  biosRegionWriteAccess := ((field 15 8).value raw).setWidth 8
  biosRegionReadAccess := ((field 7 0).value raw).setWidth 8

def encode (r : Frap) : BitVec 32 :=
  (field 31 24).place (r.biosMasterWriteAccessGrant.setWidth 32)
    ||| (field 23 16).place (r.biosMasterReadAccessGrant.setWidth 32)
    ||| (field 15 8).place (r.biosRegionWriteAccess.setWidth 32)
    ||| (field 7 0).place (r.biosRegionReadAccess.setWidth 32)

end Frap

/-! ## FREG -/

structure Freg where
  /-- Bits 31:29. -/
  reserved31 : BitVec 8
  /-- The last byte of the region. -/
  regionLimit : BitVec 32
  /-- Bits 15:13. -/
  reserved15 : BitVec 8
  /-- The first byte of the region. -/
  regionBase : BitVec 32
deriving DecidableEq, Repr

namespace Freg

def decode (raw : BitVec 32) : Freg where
  reserved31 := ((field 31 29).value raw).setWidth 8
  regionLimit := pageLimit (limitPage raw)
  reserved15 := ((field 15 13).value raw).setWidth 8
  regionBase := pageBase (basePage raw)

/-- An unused region has its base above its limit. -/
def isEnabled (r : Freg) : Bool := decide (r.regionBase ≤ r.regionLimit)

end Freg

/-! ## PR -/

structure ProtectedRange where
  /-- Writes are refused. -/
  writeProtectionEnable : Bool
  /-- Bits 30:29. -/
  reserved30 : BitVec 8
  /-- The last byte of the range. -/
  limit : BitVec 32
  /-- Reads are refused. -/
  readProtectionEnable : Bool
  /-- Bits 14:13. -/
  reserved14 : BitVec 8
  /-- The first byte of the range. -/
  base : BitVec 32
deriving DecidableEq, Repr

def ProtectedRange.decode (raw : BitVec 32) : ProtectedRange where
  writeProtectionEnable := test 31 raw
  reserved30 := ((field 30 29).value raw).setWidth 8
  limit := pageLimit (limitPage raw)
  readProtectionEnable := test 15 raw
  reserved14 := ((field 14 13).value raw).setWidth 8
  base := pageBase (basePage raw)

end FlashDump.Register
