import FlashDump.Chipset.Layout
import FlashDump.Memory.Mmio

/-!
# Reading and writing registers

A register is read by one access of its width at its place in the layout, and
decoded.  It is written by encoding a record and one access.

SSFC has 24 bits, which no access has.  It is read as its low 16 bits and then
its high 8.  It is written the other way round, so that the bit that starts a
cycle goes out with the last access.
-/

namespace FlashDump

open FlashDump.Register

namespace Layout

variable {σ : Type}

/-- The word of GCS.  Its decoder needs more than the word. -/
def readGcsWord (_l : Layout) (m : Mmio σ) (s : σ) : BitVec 32 × σ := m.read32 Offset.gcs s

def readBfpr (l : Layout) (m : Mmio σ) (s : σ) : Bfpr × σ :=
  let (raw, s) := m.read32 (l.offset Offset.bfpr) s
  (l.bfpr raw, s)

def readHsfs (l : Layout) (m : Mmio σ) (s : σ) : Hsfs × σ :=
  let (raw, s) := m.read16 (l.offset Offset.hsfs) s
  (l.hsfs.decode raw, s)

def writeHsfs (l : Layout) (m : Mmio σ) (r : Hsfs) (s : σ) : σ :=
  m.write16 (l.offset Offset.hsfs) (l.hsfs.encode r) s

def readHsfc (l : Layout) (m : Mmio σ) (s : σ) : Hsfc × σ :=
  let (raw, s) := m.read16 (l.offset Offset.hsfc) s
  (l.hsfc.decode raw, s)

def writeHsfc (l : Layout) (m : Mmio σ) (r : Hsfc) (s : σ) : σ :=
  m.write16 (l.offset Offset.hsfc) (l.hsfc.encode r) s

def readFaddr (l : Layout) (m : Mmio σ) (s : σ) : Faddr × σ :=
  let (raw, s) := m.read32 (l.offset Offset.faddr) s
  (l.faddr.decode raw, s)

def writeFaddr (l : Layout) (m : Mmio σ) (r : Faddr) (s : σ) : σ :=
  m.write32 (l.offset Offset.faddr) (l.faddr.encode r) s

def readFdata (l : Layout) (m : Mmio σ) (index : Fin fdataCount) (s : σ) : BitVec 32 × σ :=
  m.read32 (l.offset (Offset.fdata + 4 * index)) s

def readFrap (l : Layout) (m : Mmio σ) (s : σ) : Frap × σ :=
  let (raw, s) := m.read32 (l.offset Offset.frap) s
  (l.frap raw, s)

def readFreg (l : Layout) (m : Mmio σ) (index : Fin regionCount) (s : σ) : Freg × σ :=
  let (raw, s) := m.read32 (l.offset (Offset.freg + 4 * index)) s
  (l.freg raw, s)

def readPr (l : Layout) (m : Mmio σ) (index : Fin regionCount) (s : σ) : ProtectedRange × σ :=
  let (raw, s) := m.read32 (l.offset (Offset.pr + 4 * index)) s
  (l.pr raw, s)

def readSsfs (l : Layout) (m : Mmio σ) (s : σ) : Ssfs × σ :=
  let (raw, s) := m.read8 (l.offset Offset.ssfs) s
  (l.ssfs.decode raw, s)

def writeSsfs (l : Layout) (m : Mmio σ) (r : Ssfs) (s : σ) : σ :=
  m.write8 (l.offset Offset.ssfs) (l.ssfs.encode r) s

/-- Read SSFC, the low 16 bits first. -/
def readSsfc (l : Layout) (m : Mmio σ) (s : σ) : Ssfc × σ :=
  let (low, s) := m.read16 (l.offset Offset.ssfc) s
  let (high, s) := m.read8 (l.offset (Offset.ssfc + 2)) s
  (l.ssfc.decode (high.setWidth 32 <<< 16 ||| low.setWidth 32), s)

/-- Write SSFC, the high 8 bits first. -/
def writeSsfc (l : Layout) (m : Mmio σ) (r : Ssfc) (s : σ) : σ :=
  let raw := l.ssfc.encode r
  let s := m.write8 (l.offset (Offset.ssfc + 2)) ((raw >>> 16).setWidth 8) s
  m.write16 (l.offset Offset.ssfc) (raw.setWidth 16) s

end Layout

end FlashDump
