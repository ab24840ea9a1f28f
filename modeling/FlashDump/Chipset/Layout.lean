import FlashDump.Register.Bridge
import FlashDump.Register.HardwareCycle
import FlashDump.Register.Offset
import FlashDump.Register.Region
import FlashDump.Register.SoftwareCycle
import FlashDump.Register.Straps

/-!
# Register layouts

A `Layout` says where the SPI registers of a chipset are and how each register
is decoded, and encoded if it is written.  `Layout.base` is the layout of the
oldest chipset.

Newer chipsets changed three entries: the SPI BAR, the decoder of BIOS_CNTL and
that of GCS.  `Overrides` names the ones that a generation changes.
`Layout.inherit` resolves a line of descent, given by the overrides of each
generation, nearest first.  It starts at the far end and applies one after the
other, so an entry is that of the nearest generation that changes it.
-/

namespace FlashDump

open FlashDump.Register

/-- Where the registers of a chipset are and how they are coded. -/
structure Layout where
  /-- The offset of the SPI registers in the root complex window. -/
  spiBar : Nat
  biosCntl : BitVec 8 → BiosCntl
  rcba : BitVec 32 → Rcba
  /-- The decoder of GCS, which may depend on whether the part is integrated. -/
  gcs : BitVec 32 → Bool → Gcs
  bfpr : BitVec 32 → Bfpr
  hsfs : Codec 16 Hsfs
  hsfc : Codec 16 Hsfc
  faddr : Codec 32 Faddr
  frap : BitVec 32 → Frap
  freg : BitVec 32 → Freg
  pr : BitVec 32 → ProtectedRange
  ssfs : Codec 8 Ssfs
  ssfc : Codec 32 Ssfc

/-- The entries of a layout that a generation changes. -/
structure Overrides where
  spiBar : Option Nat := none
  biosCntl : Option (BitVec 8 → BiosCntl) := none
  gcs : Option (BitVec 32 → Bool → Gcs) := none

/-- No entry is changed. -/
def Overrides.none : Overrides := {}

namespace Layout

/-- The layout of the oldest chipset. -/
def base : Layout where
  spiBar := 0x3020
  biosCntl := BiosCntl.decode
  rcba := Rcba.decode
  gcs := Gcs.decodeFirst
  bfpr := Bfpr.decode
  hsfs := Hsfs.codec
  hsfc := Hsfc.codec
  faddr := Faddr.codec
  frap := Frap.decode
  freg := Freg.decode
  pr := ProtectedRange.decode
  ssfs := Ssfs.codec
  ssfc := Ssfc.codec

/-- A layout with some entries changed. -/
def override (l : Layout) (o : Overrides) : Layout :=
  { l with
    spiBar := o.spiBar.getD l.spiBar
    biosCntl := o.biosCntl.getD l.biosCntl
    gcs := o.gcs.getD l.gcs }

/-- The layout at the near end of a line of descent. -/
def inherit : List Overrides → Layout
  | [] => base
  | o :: line => (inherit line).override o

/-- The window offset of an SPI register. -/
def offset (l : Layout) (register : Nat) : Nat := l.spiBar + register

end Layout

end FlashDump
